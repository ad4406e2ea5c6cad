/-
**The encryption mappings as a finite map with expiry.**

What the table of mappings is for: `SessionMap` takes an address to the session that was last added
for it. A session leaves the map when it is removed, and when a call finds it expired, idle for more
than its timeout or past its expire time. `Run` is a run of calls, of any addresses and with times
that do not go back, on the table and on the map side by side.

* `Agrees` — the table holds exactly the sessions of the map that have not expired; one lemma for
  each call keeps it, and `Run.agrees` has it for every run;
* `encryption_mappings_refine_map` — **the table finds what the map has**, adding fails only if the
  table is full of sessions that have not expired, and the searches go far enough to see each mapping.
-/

import Netcode.Model.Sample

namespace Netcode

/-! ### The map -/

/-- What was added for an address, and when it was last accessed. -/
structure Session where
  sendKey : Key
  receiveKey : Key
  timeout : Int32
  connectTokenEntryIndex : Option Nat
  expireTime : ℚ
  lastAccessTime : ℚ
  deriving DecidableEq

/-- Idle for more than its timeout, if that is positive, or past its expire time, if that is not
negative. -/
def Session.expired (env : Platform) (session : Session) (time : ℚ) : Bool :=
  (0 < session.timeout && env.float64 (session.lastAccessTime + session.timeout.toInt) < time) ||
    (0 ≤ session.expireTime && session.expireTime < time)

/-- **A map from addresses to sessions.** -/
abbrev SessionMap := Address → Option Session

namespace SessionMap

def empty : SessionMap := fun _ => none

/-- The sessions that have not expired. -/
def live (env : Platform) (map : SessionMap) (time : ℚ) : SessionMap :=
  fun address => (map address).filter fun session => !session.expired env time

/-- Set or remove the session of an address. -/
def put (map : SessionMap) (address : Address) (session : Option Session) : SessionMap :=
  fun other => if address.Equal other then session else map other

theorem live_eq_some {env : Platform} {map : SessionMap} {time : ℚ} {address : Address}
    {session : Session} : live env map time address = some session ↔
      map address = some session ∧ session.expired env time = false := by
  simp [live, Option.filter_eq_some_iff]

/-- What has expired is gone. -/
theorem live_live (env : Platform) (map : SessionMap) (time : ℚ) :
    live env (live env map time) time = live env map time := by
  funext address
  refine Option.ext fun session => ?_
  rw [live_eq_some, live_eq_some]
  exact ⟨fun found => found.1, fun found => ⟨found, found.2⟩⟩

end SessionMap

/-- An address that a packet can come from. -/
def Address.Valid (address : Address) : Prop :=
  address.type = AddressIPv4 ∨ address.type = AddressIPv6

theorem Address.Valid.equal_self {address : Address} (valid : address.Valid) :
    address.Equal address = true :=
  equal_iff.mpr ⟨rfl, rfl, valid.imp (fun four => ⟨four, rfl⟩) fun six => ⟨six, rfl⟩⟩

/-- The session a mapping holds. -/
def EncryptionMapping.session (mapping : EncryptionMapping) : Session :=
  { sendKey := mapping.sendKey
    receiveKey := mapping.receiveKey
    timeout := mapping.timeout
    connectTokenEntryIndex := mapping.connectTokenEntryIndex
    expireTime := mapping.expireTime
    lastAccessTime := mapping.lastAccessTime }

theorem EncryptionMapping.session_expired (env : Platform) (mapping : EncryptionMapping) (time : ℚ) :
    mapping.session.expired env time = mapping.expired env time := rfl

namespace EncryptionManager

/-! ### Runs -/

/-- **A run of calls**, on the table and on the map, up to the time of the last call. -/
inductive Run (env : Platform) : EncryptionManager → SessionMap → ℚ → Prop
  | reset (time : ℚ) : Run env .reset .empty time
  | add {m m' : EncryptionManager} {map : SessionMap} {now : ℚ} (run : Run env m map now)
      (address : Address) (valid : address.Valid) (sendKey receiveKey : Key) (time expireTime : ℚ)
      (timeout : Int32) (index : Nat) (forward : now ≤ time)
      (added : m.addEncryptionMapping env address sendKey receiveKey time expireTime timeout index =
        some m') :
      Run env m' ((map.live env time).put address
        (some ⟨sendKey, receiveKey, timeout, some index, expireTime, time⟩)) time
  | refuse {m : EncryptionManager} {map : SessionMap} {now : ℚ} (run : Run env m map now)
      (address : Address) (valid : address.Valid) (sendKey receiveKey : Key) (time expireTime : ℚ)
      (timeout : Int32) (index : Nat) (forward : now ≤ time)
      (full : m.addEncryptionMapping env address sendKey receiveKey time expireTime timeout index =
        none) :
      Run env m (map.live env time) time
  | find {m : EncryptionManager} {map : SessionMap} {now : ℚ} (run : Run env m map now)
      (address : Address) (valid : address.Valid) (time : ℚ) (forward : now ≤ time) :
      Run env (m.findEncryptionMapping env address time).2 ((map.live env time).put address
        ((map.live env time address).map fun session =>
          { session with lastAccessTime := time })) time
  | remove {m : EncryptionManager} {map : SessionMap} {now : ℚ} (run : Run env m map now)
      (address : Address) (valid : address.Valid) (time : ℚ) (forward : now ≤ time) :
      Run env (m.removeEncryptionMapping env address time) ((map.live env time).put address none) time

/-! ### The table holds the map -/

/-- **The table and the map agree**: the sessions that have not expired are the same. -/
structure Agrees (env : Platform) (m : EncryptionManager) (map : SessionMap) (time : ℚ) : Prop where
  ok : m.Ok env time
  unbound : ∀ e, (m.mapping e).clientIndex = none
  holds : ∀ address session, session.expired env time = false →
    ((∃ e, (m.mapping e).address.Equal address = true ∧ (m.mapping e).session = session) ↔
      map address = some session)

section Agreement

variable {env : Platform} {m m' : EncryptionManager} {map : SessionMap} {now time : ℚ}
  {address other : Address}

theorem agrees_reset (env : Platform) (time : ℚ) : Agrees env .reset .empty time where
  ok := ok_reset
  unbound := fun _ => rfl
  holds := fun address session _ => by simp [reset, EncryptionMapping.blank, SessionMap.empty]

/-- Time passes: what has expired leaves the map. -/
theorem Agrees.tick (agrees : Agrees env m map now) (forward : now ≤ time) :
    Agrees env m (map.live env time) time where
  ok := agrees.ok.tick forward
  unbound := agrees.unbound
  holds := fun address session live => by
    have before : session.expired env now = false := by
      by_contra expired
      obtain ⟨mapping, same⟩ : ∃ mapping : EncryptionMapping, mapping.session = session :=
        ⟨⟨session.timeout, session.expireTime, session.lastAccessTime, Address.none, none,
          session.connectTokenEntryIndex, session.sendKey, session.receiveKey⟩, rfl⟩
      rw [← same, EncryptionMapping.session_expired] at expired live
      rw [expired_mono forward (by simpa using expired)] at live
      cases live
    rw [agrees.holds address session before, SessionMap.live_eq_some]
    exact ⟨fun found => ⟨found, live⟩, fun found => found.1⟩

/-- An address has one mapping at most that has not expired. -/
theorem Ok.live_unique (ok : m.Ok env time) {p q : Nat}
    (equal : (m.mapping p).address.Equal (m.mapping q).address = true)
    (liveP : (m.mapping p).expired env time = false) (liveQ : (m.mapping q).expired env time = false) :
    p = q := by
  rcases Nat.lt_trichotomy p q with less | same | greater
  · rw [ok.order p q less equal] at liveQ
    cases liveQ
  · exact same
  · rw [ok.order q p greater (Address.Equal.symm equal)] at liveP
    cases liveP

/-- The search finds the mapping of an address that has not expired. -/
theorem Ok.lookup_iff (ok : m.Ok env time) {e : Nat} :
    m.lookup env address time = some e ↔
      (m.mapping e).address.Equal address = true ∧ (m.mapping e).expired env time = false := by
  rw [lookup_eq_some]
  constructor
  · exact fun found => ⟨found.2.1, found.2.2.1⟩
  · rintro ⟨equal, live⟩
    refine ⟨ok.used (Address.Equal.type_ne_none equal), equal, live, fun p less same => ?_⟩
    by_contra liveP
    exact absurd (ok.live_unique (Address.Equal.trans same (Address.Equal.symm equal))
      (by simpa using liveP) live) (Nat.ne_of_lt less)

/-- **Writing one mapping** for an address keeps the agreement: the mapping that was there was the
live one of the address, or is of no use to anyone. -/
theorem Agrees.write (agrees : Agrees env m map time) (okAfter : m'.Ok env time) {e : Nat}
    {mapping : EncryptionMapping} (writes : m'.mapping = Function.update m.mapping e mapping)
    (client : mapping.clientIndex = none) (its : mapping.address.Equal address = true)
    (place : m.lookup env address time = some e ∨ m.lookup env address time = none ∧
      ((m.mapping e).address.type = AddressNone ∨ (m.mapping e).expired env time = true)) :
    Agrees env m' (map.put address (some mapping.session)) time := by
  have here : m'.mapping e = mapping := by rw [writes, Function.update_self]
  have others : ∀ j, j ≠ e → m'.mapping j = m.mapping j := by
    intro j away
    rw [writes, Function.update_of_ne away]
  -- no other mapping of the address is live
  have alone : ∀ j, (m.mapping j).address.Equal address = true →
      (m.mapping j).expired env time = false → j = e := by
    intro j equal live
    have found := agrees.ok.lookup_iff.mpr ⟨equal, live⟩
    rcases place with isE | ⟨absent, -⟩
    · exact Option.some_inj.mp (found.symm.trans isE)
    · rw [absent] at found
      cases found
  refine ⟨okAfter, fun j => ?_, fun other session live => ?_⟩
  · by_cases isE : j = e
    · rw [isE, here, client]
    · rw [others j isE]
      exact agrees.unbound j
  by_cases same : address.Equal other = true
  · rw [SessionMap.put, if_pos same]
    constructor
    · rintro ⟨j, equal, isSession⟩
      by_cases isE : j = e
      · rw [← isSession, isE, here]
      · rw [others j isE] at equal isSession
        rw [← isSession, EncryptionMapping.session_expired] at live
        exact absurd (alone j (Address.Equal.trans equal (Address.Equal.symm same)) live) isE
    · intro found
      refine ⟨e, ?_, ?_⟩
      · rw [here]
        exact Address.Equal.trans its same
      · rw [here]
        exact Option.some_inj.mp found
  · rw [SessionMap.put, if_neg same, ← agrees.holds other session live]
    constructor
    · rintro ⟨j, equal, isSession⟩
      by_cases isE : j = e
      · rw [isE, here] at equal
        exact absurd (Address.Equal.trans (Address.Equal.symm its) equal) same
      · rw [others j isE] at equal isSession
        exact ⟨j, equal, isSession⟩
    · rintro ⟨j, equal, isSession⟩
      have isOther : j ≠ e := by
        rintro rfl
        rcases place with found | ⟨-, unused | expired⟩
        · exact same (Address.Equal.trans (Address.Equal.symm (agrees.ok.lookup_iff.mp found).1) equal)
        · exact Address.Equal.type_ne_none equal unused
        · rw [← isSession, EncryptionMapping.session_expired, expired] at live
          cases live
      refine ⟨j, ?_, ?_⟩
      · rwa [others j isOther]
      · rwa [others j isOther]

theorem Agrees.add (agrees : Agrees env m map time) (valid : address.Valid)
    {sendKey receiveKey : Key} {expireTime : ℚ} {timeout : Int32} {index : Nat}
    (added : m.addEncryptionMapping env address sendKey receiveKey time expireTime timeout index =
      some m') :
    Agrees env m' (map.put address
      (some ⟨sendKey, receiveKey, timeout, some index, expireTime, time⟩)) time := by
  have okAfter := agrees.ok.add (fun q _ => agrees.unbound q) added
  obtain ⟨e, mapping, writes, isAdded, client, place⟩ := addEncryptionMapping_cases added
  have isSession : mapping.session = ⟨sendKey, receiveKey, timeout, some index, expireTime, time⟩ := by
    rw [← isAdded.sendKey, ← isAdded.receiveKey, ← isAdded.timeout, ← isAdded.connectTokenEntryIndex,
      ← isAdded.expireTime, ← isAdded.lastAccessTime]
    rfl
  rw [← isSession]
  refine agrees.write okAfter writes (client.trans (agrees.unbound e)) ?_ ?_
  · rcases place with ⟨found, same, -⟩ | ⟨-, -, isAddress, -⟩
    · rw [same]
      exact (agrees.ok.lookup_iff.mp found).1
    · rw [isAddress]
      exact valid.equal_self
  · rcases place with ⟨found, -, -⟩ | ⟨absent, room, -, -⟩
    · exact .inl found
    · exact .inr ⟨absent, (reusable_eq_some room).2.1.imp id And.left⟩

/-- A mapping that has not expired is in the map. -/
theorem Agrees.mapped (agrees : Agrees env m map time) {e : Nat}
    (equal : (m.mapping e).address.Equal address = true)
    (live : (m.mapping e).expired env time = false) : map address = some (m.mapping e).session := by
  rw [← EncryptionMapping.session_expired] at live
  exact (agrees.holds address _ live).mp ⟨e, equal, rfl⟩

/-- What the search finds is what the map has. -/
theorem Agrees.found (agrees : Agrees env m map time) (address : Address) :
    (m.lookup env address time).map (fun e => (m.mapping e).session) =
      map.live env time address := by
  refine Option.ext fun session => ?_
  rw [SessionMap.live_eq_some, Option.map_eq_some_iff]
  constructor
  · rintro ⟨e, found, rfl⟩
    obtain ⟨equal, live⟩ := agrees.ok.lookup_iff.mp found
    exact ⟨agrees.mapped equal live, live⟩
  · rintro ⟨found, live⟩
    obtain ⟨e, equal, rfl⟩ := (agrees.holds address session live).mpr found
    exact ⟨e, agrees.ok.lookup_iff.mpr ⟨equal, live⟩, rfl⟩

/-- Removing what is not there. -/
theorem Agrees.put_none (agrees : Agrees env m map time)
    (absent : m.lookup env address time = none) : Agrees env m (map.put address none) time := by
  refine ⟨agrees.ok, agrees.unbound, fun other session live => ?_⟩
  rw [agrees.holds other session live, SessionMap.put]
  split_ifs with same
  · refine ⟨fun found => ?_, fun impossible => by cases impossible⟩
    obtain ⟨e, equal, rfl⟩ := (agrees.holds other session live).mpr found
    rw [agrees.ok.lookup_iff.mpr ⟨Address.Equal.trans equal (Address.Equal.symm same), live⟩] at absent
    cases absent
  · rfl

theorem Agrees.find (agrees : Agrees env m map time) :
    Agrees env (m.findEncryptionMapping env address time).2 (map.put address
      ((map.live env time address).map fun session => { session with lastAccessTime := time }))
      time := by
  rw [← agrees.found address]
  unfold findEncryptionMapping
  cases found : m.lookup env address time with
  | some e =>
    obtain ⟨equal, live⟩ := agrees.ok.lookup_iff.mp found
    have valid := Address.Equal.type_ne_none equal
    have okAfter : (m.access e time).Ok env time :=
      agrees.ok.set_first (agrees.ok.used valid) (agrees.ok.lookup_first found) rfl valid
    exact agrees.write okAfter rfl (agrees.unbound e) equal (.inl found)
  | none => exact agrees.put_none found

/-- **Removing the first mapping of an address** removes its session: a later one has expired. -/
theorem Agrees.remove (agrees : Agrees env m map time) :
    Agrees env (m.removeEncryptionMapping env address time) (map.put address none) time := by
  cases found : (List.range m.numEncryptionMappings).find?
      fun i => (m.mapping i).address.Equal address with
  | none =>
    have same : m.removeEncryptionMapping env address time = m := by
      rw [removeEncryptionMapping, found]
    rw [same]
    refine agrees.put_none (lookup_eq_none.mpr fun p small equal => ?_)
    have other := List.find?_eq_none.mp found p (List.mem_range.mpr small)
    exact absurd equal other
  | some e =>
    rw [List.find?_range_eq_some] at found
    obtain ⟨equal, small, first⟩ := found
    have alone : ∀ p < e, (m.mapping p).address.Equal address = false :=
      fun p less => by simpa using first p less
    obtain ⟨okAfter, here, away⟩ := agrees.ok.remove (List.mem_range.mp small) equal alone
      (agrees.unbound e)
    have kept : ∀ j other, ((m.removeEncryptionMapping env address time).mapping j).address.Equal
        other = true → (m.removeEncryptionMapping env address time).mapping j = m.mapping j := by
      intro j other equalJ
      by_cases isE : j = e
      · rw [isE, here] at equalJ
        exact absurd rfl (Address.Equal.type_ne_none equalJ)
      · refine (away j isE).resolve_right fun dropped => ?_
        rw [dropped.1] at equalJ
        exact Address.Equal.type_ne_none equalJ rfl
    have stays : ∀ j, j ≠ e → (m.mapping j).expired env time = false →
        (m.removeEncryptionMapping env address time).mapping j = m.mapping j := by
      intro j isOther live
      refine (away j isOther).resolve_right fun dropped => ?_
      rw [dropped.2.1] at live
      cases live
    refine ⟨okAfter, fun j => ?_, fun other session live => ?_⟩
    · by_cases isE : j = e
      · rw [isE, here]
        exact agrees.unbound e
      · rcases away j isE with same | ⟨dropped, -, -⟩
        · rw [same]
          exact agrees.unbound j
        · rw [dropped]
          exact agrees.unbound j
    by_cases same : address.Equal other = true
    · rw [SessionMap.put, if_pos same]
      refine ⟨?_, fun impossible => by cases impossible⟩
      rintro ⟨j, equalJ, rfl⟩
      have isE : j ≠ e := by
        rintro rfl
        rw [here] at equalJ
        exact absurd rfl (Address.Equal.type_ne_none equalJ)
      have same' := kept j other equalJ
      rw [same'] at equalJ live
      have its := Address.Equal.trans equalJ (Address.Equal.symm same)
      have later : e < j := by
        refine lt_of_le_of_ne (Nat.le_of_not_lt fun less => ?_) isE.symm
        rw [alone j less] at its
        cases its
      rw [EncryptionMapping.session_expired, agrees.ok.order e j later
        (Address.Equal.trans equal (Address.Equal.symm its))] at live
      cases live
    · rw [SessionMap.put, if_neg same, ← agrees.holds other session live]
      constructor
      · rintro ⟨j, equalJ, isSession⟩
        have same' := kept j other equalJ
        rw [same'] at equalJ isSession
        exact ⟨j, equalJ, isSession⟩
      · rintro ⟨j, equalJ, rfl⟩
        have isE : j ≠ e := by
          rintro rfl
          exact same (Address.Equal.trans (Address.Equal.symm equal) equalJ)
        refine ⟨j, ?_, ?_⟩
        · rwa [stays j isE live]
        · rw [stays j isE live]

/-- **Every run.** -/
theorem Run.agrees (run : Run env m map now) : Agrees env m map now := by
  induction run with
  | reset time => exact agrees_reset env time
  | add _ address valid sendKey receiveKey time expireTime timeout index forward added ih =>
    exact (ih.tick forward).add valid added
  | refuse _ address valid sendKey receiveKey time expireTime timeout index forward full ih =>
    exact ih.tick forward
  | @find m map now _ address valid time forward ih =>
    have after := @Agrees.find env m _ time address (ih.tick forward)
    rwa [SessionMap.live_live] at after
  | remove _ address valid time forward ih => exact (ih.tick forward).remove

/-- Adding fails only if there is nowhere to add. -/
theorem addEncryptionMapping_eq_none {sendKey receiveKey : Key} {expireTime : ℚ} {timeout : Int32}
    {index : Nat} :
    m.addEncryptionMapping env address sendKey receiveKey time expireTime timeout index = none ↔
      m.lookup env address time = none ∧ m.reusable env time = none := by
  unfold addEncryptionMapping
  cases m.lookup env address time with
  | some e => simp
  | none => cases m.reusable env time <;> simp

/-- **The table of mappings refines a finite map with expiry**, over every run of calls. A call at any
later time finds the following:

* `findEncryptionMapping` returns the index of a mapping that holds exactly the session of the map,
  and nothing if the map has none that has not expired;
* `addEncryptionMapping` fails exactly if the map has no session of the address that has not expired
  and each mapping of the table holds one that has not;
* `numEncryptionMappings` is past every mapping that holds an address. -/
theorem encryption_mappings_refine_map (run : Run env m map now) (forward : now ≤ time) :
    (∀ address, address.Valid →
      (∀ session, map.live env time address = some session →
        ∃ e, (m.findEncryptionMapping env address time).1 = some e ∧
          (m.mapping e).session = session) ∧
      (map.live env time address = none →
        (m.findEncryptionMapping env address time).1 = none)) ∧
    (∀ address, address.Valid → ∀ sendKey receiveKey expireTime timeout index,
      m.addEncryptionMapping env address sendKey receiveKey time expireTime timeout index = none ↔
        map.live env time address = none ∧ ∀ e < maxEncryptionMappings,
          (m.mapping e).address.type ≠ AddressNone ∧ (m.mapping e).expired env time = false) ∧
    ∀ e, (m.mapping e).address.type ≠ AddressNone → e < m.numEncryptionMappings := by
  have agrees := run.agrees.tick forward
  have finds : ∀ address, (m.findEncryptionMapping env address time).1 =
      m.lookup env address time := by
    intro address
    unfold findEncryptionMapping
    cases m.lookup env address time <;> rfl
  have same : ∀ address, (m.lookup env address time).map (fun e => (m.mapping e).session) =
      map.live env time address := by
    intro address
    rw [agrees.found address, SessionMap.live_live]
  refine ⟨fun address _ => ⟨fun session found => ?_, fun absent => ?_⟩,
    fun address _ sendKey receiveKey expireTime timeout index => ?_, fun e used => agrees.ok.used used⟩
  · rw [← same address, Option.map_eq_some_iff] at found
    rw [finds]
    exact found
  · rw [← same address, Option.map_eq_none_iff] at absent
    rw [finds, absent]
  · rw [addEncryptionMapping_eq_none, ← same address, Option.map_eq_none_iff]
    refine and_congr_right fun _ => ?_
    rw [reusable, List.find?_range_eq_none]
    refine forall_congr' fun e => imp_congr_right fun _ => ?_
    simp [agrees.unbound e]

end Agreement

/-- A mapping with a timeout of five seconds, added at time zero and found at three, is there until
eight and gone after that. -/
theorem encryption_mappings_refine_map_idle :
    ∃ m map, Run samplePlatform m map 3 ∧
      (∃ e, (m.findEncryptionMapping samplePlatform Sample.firstAddress 8).1 = some e ∧
        (m.mapping e).sendKey = Sample.key 1 ∧ (m.mapping e).receiveKey = Sample.key 2) ∧
      (m.findEncryptionMapping samplePlatform Sample.firstAddress 9).1 = none := by
  have valid : Sample.firstAddress.Valid := .inl rfl
  have empty : Run samplePlatform .reset .empty 0 := .reset 0
  -- an empty table has room
  have room : reset.addEncryptionMapping samplePlatform Sample.firstAddress (Sample.key 1)
      (Sample.key 2) 0 (-1) 5 0 ≠ none := by
    rw [Ne, ((encryption_mappings_refine_map empty le_rfl).2.1 Sample.firstAddress valid _ _ _ _ _)]
    exact fun full => (full.2 0 (by decide)).1 rfl
  obtain ⟨m, added⟩ := Option.ne_none_iff_exists'.mp room
  have run := (empty.add Sample.firstAddress valid (Sample.key 1) (Sample.key 2) 0 (-1) 5 0 le_rfl
    added).find Sample.firstAddress valid 3 (by decide)
  refine ⟨_, _, run, ?_, ?_⟩
  · obtain ⟨e, found, isSession⟩ := ((encryption_mappings_refine_map run (show (3 : ℚ) ≤ 8 by
      decide)).1 Sample.firstAddress valid).1 ⟨Sample.key 1, Sample.key 2, 5, some 0, -1, 3⟩
      (by decide +kernel)
    exact ⟨e, found, congrArg Session.sendKey isSession, congrArg Session.receiveKey isSession⟩
  · exact ((encryption_mappings_refine_map run (show (3 : ℚ) ≤ 9 by decide)).1
      Sample.firstAddress valid).2 (by decide +kernel)

end EncryptionManager

end Netcode
