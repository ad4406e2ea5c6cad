/-
**The encryption mappings.**

`encryption.go`: 1024 mappings from a packet source address to the keys of the token presented from
it, of which those below `numEncryptionMappings` are looked at. A mapping expires when it has not
been touched for `timeout` seconds, or at `expireTime` while its client has not connected. The
source keeps one array per field; here a mapping is one record. An index of `-1` is `none`.

* `lookup_eq_some`, `addEncryptionMapping_cases`, `removeEncryptionMapping_cases` — what the searches
  find and what one call writes.
* `EncryptionManager.Ok` — the shape of the table: of two mappings of one address the later one has
  expired, and a mapping with a client is the first one of its address. Every operation keeps it.
-/

import Netcode.Model.Crypto
import Mathlib.Algebra.Order.Ring.Unbundled.Rat

namespace Netcode

structure EncryptionMapping where
  timeout : Int32
  expireTime : ℚ
  lastAccessTime : ℚ
  address : Address
  clientIndex : Option Nat
  connectTokenEntryIndex : Option Nat
  sendKey : Key
  receiveKey : Key

structure EncryptionManager where
  numEncryptionMappings : Nat
  mapping : Nat → EncryptionMapping

namespace EncryptionMapping

/-- What `reset` writes into every mapping. -/
def blank : EncryptionMapping :=
  { timeout := 0
    expireTime := -1
    lastAccessTime := -1000
    address := Address.none
    clientIndex := none
    connectTokenEntryIndex := none
    sendKey := .zero _
    receiveKey := .zero _ }

/-- `entryExpired`: idle for more than its timeout, or past its expire time. -/
def expired (env : Platform) (mapping : EncryptionMapping) (time : ℚ) : Bool :=
  (0 < mapping.timeout && env.float64 (mapping.lastAccessTime + mapping.timeout.toInt) < time) ||
    (0 ≤ mapping.expireTime && mapping.expireTime < time)

/-- What `removeEncryptionMapping` leaves of the mapping it removes: `timeout` and `clientIndex`. -/
def cleared (mapping : EncryptionMapping) : EncryptionMapping :=
  { mapping with
    expireTime := -1
    lastAccessTime := -1000
    connectTokenEntryIndex := none
    address := Address.none
    sendKey := .zero _
    receiveKey := .zero _ }

/-- `m.address[index].Type = AddressNone`. -/
def dropped (mapping : EncryptionMapping) : EncryptionMapping :=
  { mapping with address := { mapping.address with type := AddressNone } }

end EncryptionMapping

namespace EncryptionManager

def reset : EncryptionManager := ⟨0, fun _ => .blank⟩

/-- Replace one mapping. -/
def set (m : EncryptionManager) (index : Nat) (mapping : EncryptionMapping) : EncryptionManager :=
  { m with mapping := Function.update m.mapping index mapping }

/-- `m.lastAccessTime[index] = time`. -/
def access (m : EncryptionManager) (index : Nat) (time : ℚ) : EncryptionManager :=
  m.set index { m.mapping index with lastAccessTime := time }

section Operations

variable (env : Platform)

/-- The first mapping of an address that has not expired. -/
def lookup (m : EncryptionManager) (address : Address) (time : ℚ) : Option Nat :=
  (List.range m.numEncryptionMappings).find? fun i =>
    (m.mapping i).address.Equal address && !(m.mapping i).expired env time

/-- The first mapping that holds no address, or an expired one with no client. -/
def reusable (m : EncryptionManager) (time : ℚ) : Option Nat :=
  (List.range maxEncryptionMappings).find? fun i =>
    (m.mapping i).address.type = AddressNone ||
      ((m.mapping i).expired env time && (m.mapping i).clientIndex = none)

/-- `addEncryptionMapping`; `none` is its `false`, which leaves the table as it was. -/
def addEncryptionMapping (m : EncryptionManager) (address : Address) (sendKey receiveKey : Key)
    (time expireTime : ℚ) (timeout : Int32) (connectTokenEntryIndex : Nat) :
    Option EncryptionManager :=
  match m.lookup env address time with
  | some i =>
    some (m.set i { m.mapping i with
      timeout := timeout
      expireTime := expireTime
      lastAccessTime := time
      connectTokenEntryIndex := some connectTokenEntryIndex
      sendKey := sendKey
      receiveKey := receiveKey })
  | none =>
    match m.reusable env time with
    | some i =>
      some { m.set i { m.mapping i with
          timeout := timeout
          address := address
          expireTime := expireTime
          lastAccessTime := time
          connectTokenEntryIndex := some connectTokenEntryIndex
          sendKey := sendKey
          receiveKey := receiveKey } with
        numEncryptionMappings := max m.numEncryptionMappings (i + 1) }
    | none => none

/-- The trimming loop of `removeEncryptionMapping`, on the first `count` mappings: drop expired
ones without a client from the top. -/
def trim (time : ℚ) : (count : Nat) → (Nat → EncryptionMapping) → EncryptionManager
  | 0, mapping => ⟨0, mapping⟩
  | count + 1, mapping =>
    if !(mapping count).expired env time || (mapping count).clientIndex ≠ none then
      ⟨count + 1, mapping⟩
    else trim time count (Function.update mapping count (mapping count).dropped)

/-- `removeEncryptionMapping`: the first mapping of the address, whatever its state. Nobody looks
at its boolean. -/
def removeEncryptionMapping (m : EncryptionManager) (address : Address) (time : ℚ) :
    EncryptionManager :=
  match (List.range m.numEncryptionMappings).find? fun i => (m.mapping i).address.Equal address with
  | none => m
  | some i =>
    let m := m.set i (m.mapping i).cleared
    if i + 1 = m.numEncryptionMappings then trim env time i m.mapping else m

/-- `findEncryptionMapping`, which refreshes the mapping it finds. -/
def findEncryptionMapping (m : EncryptionManager) (address : Address) (time : ℚ) :
    Option Nat × EncryptionManager :=
  match m.lookup env address time with
  | some i => (some i, m.access i time)
  | none => (none, m)

end Operations

/-- `touch`; `none` is its `false`. -/
def touch (m : EncryptionManager) (index : Nat) (address : Address) (time : ℚ) :
    Option EncryptionManager :=
  if !(m.mapping index).address.Equal address then none
  else some (m.access index time)

def setExpireTime (m : EncryptionManager) (index : Nat) (expireTime : ℚ) : EncryptionManager :=
  m.set index { m.mapping index with expireTime := expireTime }

/-- `m.clientIndex[index] = clientIndex`. -/
def setClientIndex (m : EncryptionManager) (index : Nat) (clientIndex : Option Nat) :
    EncryptionManager :=
  m.set index { m.mapping index with clientIndex := clientIndex }

def getReceiveKey (m : EncryptionManager) (index : Option Nat) : Option Key :=
  index.map fun i => (m.mapping i).receiveKey

def getConnectTokenEntryIndex (m : EncryptionManager) (index : Option Nat) : Option Nat :=
  match index with
  | some i => (m.mapping i).connectTokenEntryIndex
  | none => none

/-! ### What one call does -/

section Cases

variable {env : Platform} {m m' : EncryptionManager} {address : Address} {time : ℚ}

theorem lookup_eq_some {e : Nat} :
    m.lookup env address time = some e ↔ e < m.numEncryptionMappings ∧
      (m.mapping e).address.Equal address = true ∧ (m.mapping e).expired env time = false ∧
      ∀ p < e, (m.mapping p).address.Equal address = true →
        (m.mapping p).expired env time = true := by
  rw [lookup, List.find?_range_eq_some]
  simp only [Bool.and_eq_true, Bool.not_eq_true', List.mem_range, Bool.not_and, Bool.not_not,
    Bool.or_eq_true]
  constructor
  · rintro ⟨⟨equal, live⟩, small, earlier⟩
    refine ⟨small, equal, live, fun p less same => ?_⟩
    rcases earlier p less with other | expired
    · rw [same] at other
      cases other
    · exact expired
  · rintro ⟨small, equal, live, earlier⟩
    refine ⟨⟨equal, live⟩, small, fun p less => ?_⟩
    by_cases same : (m.mapping p).address.Equal address = true
    · exact Or.inr (earlier p less same)
    · exact Or.inl (by simpa using same)

theorem lookup_eq_none :
    m.lookup env address time = none ↔ ∀ p < m.numEncryptionMappings,
      (m.mapping p).address.Equal address = true → (m.mapping p).expired env time = true := by
  rw [lookup, List.find?_range_eq_none]
  simp only [Bool.not_and, Bool.not_not, Bool.or_eq_true]
  refine forall_congr' fun p => imp_congr_right fun _ => ?_
  cases (m.mapping p).address.Equal address <;> simp

theorem reusable_eq_some {e : Nat} (found : m.reusable env time = some e) :
    e < maxEncryptionMappings ∧
      ((m.mapping e).address.type = AddressNone ∨
        (m.mapping e).expired env time = true ∧ (m.mapping e).clientIndex = none) ∧
      ∀ p < e, (m.mapping p).address.type ≠ AddressNone ∧
        ((m.mapping p).expired env time = true → (m.mapping p).clientIndex ≠ none) := by
  rw [reusable, List.find?_range_eq_some] at found
  obtain ⟨free, small, earlier⟩ := found
  rw [List.mem_range] at small
  refine ⟨small, by simpa using free, fun p less => ?_⟩
  have taken : (m.mapping p).address.type ≠ AddressNone ∧
      ((m.mapping p).expired env time = false ∨ (m.mapping p).clientIndex ≠ none) := by
    simpa using earlier p less
  refine ⟨taken.1, fun expired => taken.2.resolve_left ?_⟩
  rw [expired]
  exact Bool.noConfusion

/-- What an added mapping holds besides its address and client. -/
structure Added (mapping : EncryptionMapping) (sendKey receiveKey : Key) (time expireTime : ℚ)
    (timeout : Int32) (connectTokenEntryIndex : Nat) : Prop where
  sendKey : mapping.sendKey = sendKey
  receiveKey : mapping.receiveKey = receiveKey
  lastAccessTime : mapping.lastAccessTime = time
  expireTime : mapping.expireTime = expireTime
  timeout : mapping.timeout = timeout
  connectTokenEntryIndex : mapping.connectTokenEntryIndex = some connectTokenEntryIndex

/-- **What `addEncryptionMapping` writes**: one mapping, over the live one of the address if there
is one, else over the first mapping that is free to take. -/
theorem addEncryptionMapping_cases {sendKey receiveKey : Key} {expireTime : ℚ} {timeout : Int32}
    {index : Nat}
    (added : m.addEncryptionMapping env address sendKey receiveKey time expireTime timeout index =
      some m') :
    ∃ e mapping, m'.mapping = Function.update m.mapping e mapping ∧
      Added mapping sendKey receiveKey time expireTime timeout index ∧
      mapping.clientIndex = (m.mapping e).clientIndex ∧
      (m.lookup env address time = some e ∧ mapping.address = (m.mapping e).address ∧
          m'.numEncryptionMappings = m.numEncryptionMappings ∨
        m.lookup env address time = none ∧ m.reusable env time = some e ∧
          mapping.address = address ∧
          m'.numEncryptionMappings = max m.numEncryptionMappings (e + 1)) := by
  unfold addEncryptionMapping at added
  cases found : m.lookup env address time with
  | some e =>
    rw [found] at added
    cases added
    exact ⟨e, _, rfl, ⟨rfl, rfl, rfl, rfl, rfl, rfl⟩, rfl, Or.inl ⟨rfl, rfl, rfl⟩⟩
  | none =>
    rw [found] at added
    cases room : m.reusable env time with
    | none =>
      rw [room] at added
      cases added
    | some e =>
      rw [room] at added
      cases added
      exact ⟨e, _, rfl, ⟨rfl, rfl, rfl, rfl, rfl, rfl⟩, rfl, Or.inr ⟨rfl, rfl, rfl, rfl⟩⟩

/-- The trimming loop drops mappings from the top, each expired and without a client. -/
theorem trim_cases (env : Platform) (time : ℚ) (count : Nat) (mapping : Nat → EncryptionMapping) :
    (trim env time count mapping).numEncryptionMappings ≤ count ∧
      ∀ j, (trim env time count mapping).mapping j =
          (if (trim env time count mapping).numEncryptionMappings ≤ j ∧ j < count then
            (mapping j).dropped else mapping j) ∧
        ((trim env time count mapping).numEncryptionMappings ≤ j → j < count →
          (mapping j).expired env time = true ∧ (mapping j).clientIndex = none) := by
  induction count generalizing mapping with
  | zero => exact ⟨Nat.le_refl _, fun j => ⟨by simp [trim], fun _ less => absurd less (by omega)⟩⟩
  | succ count ih =>
    by_cases stays : (!(mapping count).expired env time || (mapping count).clientIndex ≠ none) = true
    · have stops : trim env time (count + 1) mapping = ⟨count + 1, mapping⟩ := by
        rw [trim, if_pos stays]
      rw [stops]
      exact ⟨Nat.le_refl _, fun j =>
        ⟨(if_neg (by show ¬ (count + 1 ≤ j ∧ _); omega)).symm,
          fun above less => absurd less (Nat.not_lt.mpr above)⟩⟩
    · have goes : trim env time (count + 1) mapping =
          trim env time count (Function.update mapping count (mapping count).dropped) := by
        rw [trim, if_neg stays]
      obtain ⟨below, rest⟩ := ih (Function.update mapping count (mapping count).dropped)
      rw [goes]
      have free : (mapping count).expired env time = true ∧ (mapping count).clientIndex = none := by
        simpa using stays
      refine ⟨below.trans (Nat.le_succ _), fun j => ?_⟩
      obtain ⟨value, dead⟩ := rest j
      by_cases top : j = count
      · subst top
        rw [value]
        refine ⟨?_, fun _ _ => free⟩
        rw [if_neg (by omega), Function.update_self, if_pos ⟨below, Nat.lt_succ_self _⟩]
      · rw [Function.update_of_ne top] at value dead
        rw [value]
        refine ⟨?_, fun above less => dead above (by omega)⟩
        by_cases inside : (trim env time count (Function.update mapping count
            (mapping count).dropped)).numEncryptionMappings ≤ j ∧ j < count
        · rw [if_pos inside, if_pos ⟨inside.1, by omega⟩]
        · rw [if_neg inside, if_neg (by omega)]

/-- **What `removeEncryptionMapping` does**: clear the first mapping of the address; if it was the
last one in use, also drop the expired ones without a client right below it. -/
theorem removeEncryptionMapping_cases (env : Platform) (time : ℚ) {e : Nat}
    (small : e < m.numEncryptionMappings) (equal : (m.mapping e).address.Equal address = true)
    (alone : ∀ p < e, (m.mapping p).address.Equal address = false) :
    (m.removeEncryptionMapping env address time).numEncryptionMappings ≤ m.numEncryptionMappings ∧
      (∀ j, m.numEncryptionMappings ≤ j ∨
        j < (m.removeEncryptionMapping env address time).numEncryptionMappings ∨ j ≤ e) ∧
      ∀ j, (m.removeEncryptionMapping env address time).mapping j =
          (if j = e then (m.mapping e).cleared
          else if (m.removeEncryptionMapping env address time).numEncryptionMappings ≤ j ∧ j < e then
            (m.mapping j).dropped else m.mapping j) ∧
        ((m.removeEncryptionMapping env address time).numEncryptionMappings ≤ j → j < e →
          (m.mapping j).expired env time = true ∧ (m.mapping j).clientIndex = none) := by
  have found : (List.range m.numEncryptionMappings).find?
      (fun i => (m.mapping i).address.Equal address) = some e := by
    rw [List.find?_range_eq_some]
    exact ⟨equal, List.mem_range.mpr small, fun p less => by simp [alone p less]⟩
  have removes : m.removeEncryptionMapping env address time =
      if e + 1 = m.numEncryptionMappings then
        trim env time e (Function.update m.mapping e (m.mapping e).cleared)
      else m.set e (m.mapping e).cleared := by
    simp only [removeEncryptionMapping, found]
    rfl
  rw [removes]
  by_cases last : e + 1 = m.numEncryptionMappings
  · rw [if_pos last]
    obtain ⟨below, values⟩ := trim_cases env time e
      (Function.update m.mapping e (m.mapping e).cleared)
    refine ⟨by omega, fun j => by omega, fun j => ?_⟩
    obtain ⟨value, dead⟩ := values j
    rw [value]
    by_cases here : j = e
    · subst here
      refine ⟨?_, fun _ less => absurd less (Nat.lt_irrefl _)⟩
      rw [if_neg (by omega), if_pos rfl, Function.update_self]
    · rw [Function.update_of_ne here] at dead ⊢
      rw [if_neg here]
      exact ⟨rfl, dead⟩
  · rw [if_neg last]
    refine ⟨Nat.le_refl _, fun j => ?_, fun j => ⟨?_, ?_⟩⟩
    · show m.numEncryptionMappings ≤ j ∨ j < m.numEncryptionMappings ∨ j ≤ e
      omega
    · show Function.update m.mapping e _ j = _
      by_cases here : j = e
      · subst here
        rw [Function.update_self, if_pos rfl]
      · rw [Function.update_of_ne here, if_neg here, if_neg]
        show ¬ (m.numEncryptionMappings ≤ j ∧ j < e)
        omega
    · intro above less
      have outside : m.numEncryptionMappings ≤ j := above
      omega

end Cases

/-! ### The shape of the table -/

/-- **The shape of the table.** -/
structure Ok (env : Platform) (m : EncryptionManager) (time : ℚ) : Prop where
  size : m.numEncryptionMappings ≤ maxEncryptionMappings
  unused : ∀ e, m.numEncryptionMappings ≤ e →
    (m.mapping e).address.type = AddressNone ∧ (m.mapping e).clientIndex = none
  /-- Of two mappings of one address the later one has expired. -/
  order : ∀ p q, p < q → (m.mapping p).address.Equal (m.mapping q).address = true →
    (m.mapping q).expired env time = true
  /-- A mapping with a client is the first one of its address. -/
  first : ∀ p q, p < q → (m.mapping q).clientIndex ≠ none →
    (m.mapping p).address.Equal (m.mapping q).address = false
  held : ∀ e, (m.mapping e).clientIndex ≠ none → (m.mapping e).address.type ≠ AddressNone

section Shape

variable {env : Platform} {m m' : EncryptionManager} {address : Address} {time : ℚ}

theorem ok_reset : reset.Ok env time :=
  ⟨Nat.zero_le _, fun _ _ => ⟨rfl, rfl⟩,
    fun p q _ equal => absurd equal (by simp [reset, EncryptionMapping.blank]),
    fun p q _ _ => by simp [reset, EncryptionMapping.blank], fun _ held => absurd rfl held⟩

/-- What has expired stays expired. -/
theorem expired_mono {mapping : EncryptionMapping} {later : ℚ} (forward : time ≤ later)
    (expired : mapping.expired env time = true) : mapping.expired env later = true := by
  simp only [EncryptionMapping.expired, Bool.or_eq_true, Bool.and_eq_true, decide_eq_true_eq]
    at expired ⊢
  exact expired.imp (fun idle => ⟨idle.1, idle.2.trans_le forward⟩)
    fun waited => ⟨waited.1, waited.2.trans_le forward⟩

theorem Ok.tick {later : ℚ} (ok : m.Ok env time) (forward : time ≤ later) : m.Ok env later :=
  { ok with order := fun p q less equal => expired_mono forward (ok.order p q less equal) }

/-- A mapping that is used is one of those looked at. -/
theorem Ok.used {e : Nat} (ok : m.Ok env time) (valid : (m.mapping e).address.type ≠ AddressNone) :
    e < m.numEncryptionMappings := by
  by_contra beyond
  exact valid (ok.unused e (Nat.not_lt.mp beyond)).1

/-- The live mapping of an address is the first one. -/
theorem Ok.lookup_first {e : Nat} (ok : m.Ok env time)
    (found : m.lookup env address time = some e) :
    ∀ p < e, (m.mapping p).address.Equal (m.mapping e).address = false := by
  obtain ⟨-, -, live, -⟩ := lookup_eq_some.mp found
  intro p less
  by_contra equal
  rw [ok.order p e less (by simpa using equal)] at live
  cases live

/-- **Rewriting the first mapping of an address**, for the same address, keeps the shape. -/
theorem Ok.set_first {e : Nat} {mapping : EncryptionMapping} (ok : m.Ok env time)
    (small : e < m.numEncryptionMappings)
    (alone : ∀ p < e, (m.mapping p).address.Equal (m.mapping e).address = false)
    (same : mapping.address = (m.mapping e).address)
    (valid : (m.mapping e).address.type ≠ AddressNone) :
    (m.set e mapping).Ok env time := by
  have addresses : ∀ j, ((m.set e mapping).mapping j).address = (m.mapping j).address := by
    intro j
    by_cases here : j = e
    · subst here
      simp [set, same]
    · simp [set, Function.update_of_ne here]
  have others : ∀ j, j ≠ e → (m.set e mapping).mapping j = m.mapping j :=
    fun j other => Function.update_of_ne other _ _
  refine ⟨ok.size, fun j above => ?_, fun p q less equal => ?_, fun p q less bound => ?_,
    fun j bound => ?_⟩
  · have other : j ≠ e := by
      have outside : m.numEncryptionMappings ≤ j := above
      omega
    rw [others j other]
    exact ok.unused j above
  · rw [addresses, addresses] at equal
    by_cases here : q = e
    · subst here
      rw [alone p less] at equal
      cases equal
    · rw [others q here]
      exact ok.order p q less equal
  · rw [addresses, addresses]
    by_cases here : q = e
    · subst here
      exact alone p less
    · rw [others q here] at bound
      exact ok.first p q less bound
  · rw [addresses]
    by_cases here : j = e
    · subst here
      exact valid
    · rw [others j here] at bound
      exact ok.held j bound

/-- **Adding a mapping keeps the shape**, for an address without a connected client. -/
theorem Ok.add {sendKey receiveKey : Key} {expireTime : ℚ} {timeout : Int32} {index : Nat}
    (ok : m.Ok env time)
    (free : ∀ q, (m.mapping q).address.Equal address = true → (m.mapping q).clientIndex = none)
    (added : m.addEncryptionMapping env address sendKey receiveKey time expireTime timeout index =
      some m') : m'.Ok env time := by
  obtain ⟨e, mapping, writes, -, client, place⟩ := addEncryptionMapping_cases added
  rcases place with ⟨found, same, count⟩ | ⟨absent, room, isAddress, count⟩
  · have asSet : m' = m.set e mapping := by
      cases m'
      simp only [set] at writes count ⊢
      rw [writes, count]
    obtain ⟨small, equal, -, -⟩ := lookup_eq_some.mp found
    rw [asSet]
    exact ok.set_first small (ok.lookup_first found) same (Address.Equal.type_ne_none equal)
  · obtain ⟨small, takes, earlier⟩ := reusable_eq_some room
    have unbound : (m.mapping e).clientIndex = none := by
      rcases takes with none | ⟨-, none⟩
      · by_contra bound
        exact ok.held e bound none
      · exact none
    -- every other mapping of the address has expired and has no client, so it comes later
    have dead : ∀ q, (m.mapping q).address.Equal address = true →
        (m.mapping q).expired env time = true :=
      fun q equal => lookup_eq_none.mp absent q (ok.used (Address.Equal.type_ne_none equal)) equal
    have later : ∀ q < e, (m.mapping q).address.Equal address = false := by
      intro q less
      by_contra equal
      rw [Bool.not_eq_false] at equal
      exact (earlier q less).2 (dead q equal) (free q equal)
    have here : m'.mapping e = mapping := by rw [writes, Function.update_self]
    have others : ∀ j, j ≠ e → m'.mapping j = m.mapping j := by
      intro j other
      rw [writes, Function.update_of_ne other]
    refine ⟨by have := ok.size; omega, fun j above => ?_, fun p q less equal => ?_,
      fun p q less bound => ?_, fun j bound => ?_⟩
    · rw [others j (by omega)]
      exact ok.unused j (by omega)
    · by_cases isQ : q = e
      · subst isQ
        rw [here, others p (by omega), isAddress, later p less] at equal
        cases equal
      · rw [others q isQ] at equal ⊢
        by_cases isP : p = e
        · subst isP
          rw [here, isAddress] at equal
          exact dead q (Address.Equal.symm equal)
        · rw [others p isP] at equal
          exact ok.order p q less equal
    · by_cases isQ : q = e
      · subst isQ
        rw [here, client, unbound] at bound
        exact absurd rfl bound
      · rw [others q isQ] at bound ⊢
        by_cases isP : p = e
        · subst isP
          rw [here, isAddress]
          by_contra equal
          exact bound (free q (Address.Equal.symm (by simpa using equal)))
        · rw [others p isP]
          exact ok.first p q less bound
    · by_cases isJ : j = e
      · subst isJ
        rw [here, client, unbound] at bound
        exact absurd rfl bound
      · rw [others j isJ] at bound ⊢
        exact ok.held j bound

/-- **Removing the first mapping of an address** clears exactly that mapping, which has no client; of
the others, only expired ones without a client may lose their address. -/
theorem Ok.remove {e : Nat} (ok : m.Ok env time) (small : e < m.numEncryptionMappings)
    (equal : (m.mapping e).address.Equal address = true)
    (alone : ∀ p < e, (m.mapping p).address.Equal address = false)
    (unbound : (m.mapping e).clientIndex = none) :
    (m.removeEncryptionMapping env address time).Ok env time ∧
      (m.removeEncryptionMapping env address time).mapping e = (m.mapping e).cleared ∧
      ∀ j, j ≠ e →
        (m.removeEncryptionMapping env address time).mapping j = m.mapping j ∨
          (m.removeEncryptionMapping env address time).mapping j = (m.mapping j).dropped ∧
            (m.mapping j).expired env time = true ∧ (m.mapping j).clientIndex = none := by
  obtain ⟨fewer, range, values⟩ := removeEncryptionMapping_cases env time small equal alone
  generalize m.removeEncryptionMapping env address time = m' at *
  have here : m'.mapping e = (m.mapping e).cleared := by rw [(values e).1, if_pos rfl]
  have away : ∀ j, j ≠ e → m'.mapping j = m.mapping j ∨
      m'.mapping j = (m.mapping j).dropped ∧ (m.mapping j).expired env time = true ∧
        (m.mapping j).clientIndex = none := by
    intro j other
    obtain ⟨value, dead⟩ := values j
    rw [if_neg other] at value
    by_cases trimmed : m'.numEncryptionMappings ≤ j ∧ j < e
    · rw [if_pos trimmed] at value
      exact Or.inr ⟨value, dead trimmed.1 trimmed.2⟩
    · rw [if_neg trimmed] at value
      exact Or.inl value
  refine ⟨?_, here, away⟩
  -- addresses only disappear, and so do clients
  have equals : ∀ p q, (m'.mapping p).address.Equal (m'.mapping q).address = true →
      m'.mapping p = m.mapping p ∧ m'.mapping q = m.mapping q := by
    have keeps : ∀ j, (m'.mapping j).address.type ≠ AddressNone → m'.mapping j = m.mapping j := by
      intro j valid
      by_cases isE : j = e
      · subst isE
        rw [here] at valid
        exact absurd rfl valid
      · rcases away j isE with same | ⟨gone, -, -⟩
        · exact same
        · rw [gone] at valid
          exact absurd rfl valid
    exact fun p q same => ⟨keeps p (Address.Equal.type_ne_none same),
      keeps q (Address.Equal.type_ne_none (Address.Equal.symm same))⟩
  have clients : ∀ j, (m'.mapping j).clientIndex ≠ none →
      m'.mapping j = m.mapping j ∧ (m.mapping j).clientIndex ≠ none := by
    intro j held
    by_cases isE : j = e
    · subst isE
      rw [here] at held
      exact absurd unbound held
    · rcases away j isE with same | ⟨gone, -, none⟩
      · exact ⟨same, same ▸ held⟩
      · rw [gone] at held
        exact absurd none held
  refine ⟨fewer.trans ok.size, fun j above => ?_, fun p q less same => ?_, fun p q less held => ?_,
    fun j held => ?_⟩
  · by_cases isE : j = e
    · subst isE
      rw [here]
      exact ⟨rfl, unbound⟩
    · obtain ⟨value, dead⟩ := values j
      rw [if_neg isE] at value
      rcases range j with beyond | inside | before
      · rw [value, if_neg (by omega)]
        exact ok.unused j beyond
      · omega
      · rw [value, if_pos ⟨above, by omega⟩]
        exact ⟨rfl, (dead above (by omega)).2⟩
  · obtain ⟨sameP, sameQ⟩ := equals p q same
    rw [sameQ]
    rw [sameP, sameQ] at same
    exact ok.order p q less same
  · obtain ⟨sameQ, bound⟩ := clients q held
    by_contra same
    rw [Bool.not_eq_false] at same
    obtain ⟨sameP, -⟩ := equals p q same
    rw [sameP, sameQ, ok.first p q less bound] at same
    cases same
  · obtain ⟨same, bound⟩ := clients j held
    rw [same]
    exact ok.held j bound

/-- **Giving up a client's mapping** clears exactly that mapping; of the others, only expired ones
without a client may lose their address. -/
theorem Ok.release {e : Nat} (ok : m.Ok env time) (bound : (m.mapping e).clientIndex ≠ none)
    (equal : (m.mapping e).address.Equal address = true) :
    ((m.setClientIndex e none).removeEncryptionMapping env address time).Ok env time ∧
      ((m.setClientIndex e none).removeEncryptionMapping env address time).mapping e =
        { (m.mapping e).cleared with clientIndex := none } ∧
      ∀ j, j ≠ e →
        ((m.setClientIndex e none).removeEncryptionMapping env address time).mapping j =
            m.mapping j ∨
          ((m.setClientIndex e none).removeEncryptionMapping env address time).mapping j =
              (m.mapping j).dropped ∧
            (m.mapping j).expired env time = true ∧ (m.mapping j).clientIndex = none := by
  have freed : (m.setClientIndex e none).mapping e = { m.mapping e with clientIndex := none } :=
    Function.update_self _ _ _
  have others : ∀ j, j ≠ e → (m.setClientIndex e none).mapping j = m.mapping j :=
    fun j other => Function.update_of_ne other _ _
  have valid := Address.Equal.type_ne_none equal
  have alone : ∀ p < e, ((m.setClientIndex e none).mapping p).address.Equal address = false := by
    intro p less
    rw [others p (by omega)]
    by_contra same
    have sameFirst := ok.first p e less bound
    rw [Address.Equal.trans (by simpa using same) (Address.Equal.symm equal)] at sameFirst
    cases sameFirst
  have okFreed : (m.setClientIndex e none).Ok env time :=
    ok.set_first (ok.used valid) (fun p less => ok.first p e less bound) rfl valid
  obtain ⟨okAfter, here, away⟩ := okFreed.remove (ok.used valid) (by rw [freed]; exact equal) alone
    (by rw [freed])
  refine ⟨okAfter, by rw [here, freed]; rfl, fun j other => ?_⟩
  have after := away j other
  rwa [others j other] at after

end Shape

end EncryptionManager

end Netcode
