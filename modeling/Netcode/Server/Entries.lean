/-
**The history entry of a mapping.**

A mapping remembers the index of the history entry its token was admitted with, and `connectClient`
consumes the entry at that index. The entry is recycled by the wall clock once its token has expired,
the mapping lives by the time of the server: so the index names the mapping's own token as long as
the server has not read a time at which that token is expired.

* `Linked` — **the invariant** that ties the history to the mappings, over runs (`Run.linked`);
* `Passes` — the points of a run, inside calls too;
* `consume_own_token` — **a client that is accepted consumes the entry of its own token**, and the
  history's answers for other tokens stay what they were;
* `consume_other_token` — a client accepted after its token's entry was recycled consumes the entry
  of another client's token.
-/

import Netcode.Model.Sample
import Netcode.Server.Provenance

namespace Netcode

open Trace
open Relation (ReflTransGen)

/-! ### Issued tokens -/

/-- The MAC of a sealed private connect token. -/
def AeadCall.mac (call : AeadCall) : Mac :=
  .copyFrom MacBytes (call.ciphertext.drop (connectTokenPrivateBytes - MacBytes))

/-- The private connect token in a sealed buffer. -/
def AeadCall.token (call : AeadCall) : Option ConnectTokenPrivate :=
  (ConnectTokenPrivate.read
    (call.plaintext ++ call.ciphertext.drop (connectTokenPrivateBytes - MacBytes))).join

/-- Distinct tokens have distinct MACs and send keys. -/
structure DistinctTokens (issued : AeadCall → Prop) : Prop where
  mac : ∀ first second, issued first → issued second → first.mac = second.mac → first = second
  sendKey : ∀ first second token token', issued first → issued second →
    first.token = some token → second.token = some token' →
    token.serverToClientKey = token'.serverToClientKey → first = second

theorem DistinctTokens.of_nodup {calls : List AeadCall} (macs : (calls.map AeadCall.mac).Nodup)
    (sendKeys : (calls.map fun call => call.token.map (·.serverToClientKey)).Nodup) :
    DistinctTokens (· ∈ calls) where
  mac := fun _ _ isFirst isSecond same => List.inj_on_of_nodup_map macs isFirst isSecond same
  sendKey := fun _ _ _ _ isFirst isSecond isToken isToken' same =>
    List.inj_on_of_nodup_map sendKeys isFirst isSecond
      (by simp only [isToken, isToken', Option.map_some, same])

/-- The sealed tokens that were opened. -/
def openedTokens (trace : List Effect) : List AeadCall :=
  trace.filterMap fun
    | .opened .connectToken call => some call
    | _ => none

/-- The readings of the wall clock, newest first. -/
def clockReadings (trace : List Effect) : List UInt64 :=
  trace.filterMap fun
    | .clock now => some now
    | _ => none

/-- The AEAD opens, under the private key, only tokens that were issued. -/
def OnlyIssued (issued : AeadCall → Prop) (trace : List Effect) : Prop :=
  ∀ call ∈ openedTokens trace, issued call

/-- The wall clock never goes back. -/
def ClockForward (trace : List Effect) : Prop := (clockReadings trace).Pairwise (· ≥ ·)

instance (trace : List Effect) : Decidable (ClockForward trace) :=
  inferInstanceAs (Decidable ((clockReadings trace).Pairwise (· ≥ ·)))

instance (issued : AeadCall → Prop) [DecidablePred issued] (trace : List Effect) :
    Decidable (OnlyIssued issued trace) :=
  inferInstanceAs (Decidable (∀ call ∈ openedTokens trace, issued call))

theorem mem_openedTokens {call : AeadCall} {trace : List Effect} :
    call ∈ openedTokens trace ↔ .opened .connectToken call ∈ trace := by
  constructor
  · intro member
    obtain ⟨effect, inTrace, isCall⟩ := List.mem_filterMap.mp member
    split at isCall
    · cases isCall
      exact inTrace
    · cases isCall
  · exact fun member => List.mem_filterMap.mpr ⟨_, member, rfl⟩

theorem mem_clockReadings {now : UInt64} {trace : List Effect} :
    now ∈ clockReadings trace ↔ .clock now ∈ trace := by
  constructor
  · intro member
    obtain ⟨effect, inTrace, isNow⟩ := List.mem_filterMap.mp member
    split at isNow
    · cases isNow
      exact inTrace
    · cases isNow
  · exact fun member => List.mem_filterMap.mpr ⟨_, member, rfl⟩

theorem OnlyIssued.of_suffix {issued : AeadCall → Prop} {before after : List Effect}
    (suffix : before <:+ after) (only : OnlyIssued issued after) : OnlyIssued issued before :=
  fun call member => only call ((suffix.sublist.filterMap _).subset member)

namespace Server

variable {env : Platform} {config : ServerConfig} {s s' : Server} {issued : AeadCall → Prop}

section Tokens

variable {source source' : Address} {request request' : ConnectionRequest}
  {reading reading' : UInt64} {call call' : AeadCall} {token token' : ConnectTokenPrivate}

theorem Accepted.isIssued (accepted : Accepted config s request reading call)
    (only : OnlyIssued issued s.trace) : issued call :=
  only call (mem_openedTokens.mpr (mem_of_mem_thisRun accepted.opened))

theorem Accepted.mac_eq (accepted : Accepted config s request reading call) :
    requestMac request = call.mac := by
  rw [requestMac, accepted.data, ← accepted.length, List.drop_left, AeadCall.mac, accepted.length]

theorem Accepted.token_eq (accepted : Accepted config s request reading call)
    (reads : ConnectTokenPrivate.read request.connectTokenData.bytes = some (some token)) :
    call.token = some token := by
  rw [AeadCall.token, ← accepted.data, reads]
  rfl

/-- The expire timestamp is sealed into the token. -/
theorem Accepted.expire_eq (accepted : Accepted config s request reading call)
    (accepted' : Accepted config s request' reading' call) :
    request.connectTokenExpireTimestamp = request'.connectTokenExpireTimestamp :=
  uint64Bytes_injective (List.append_cancel_left
    (accepted.additional.symm.trans accepted'.additional))

/-- Requests with one MAC have one expire timestamp. -/
theorem expire_eq_of_mac (inv : Provenance config s) (distinct : DistinctTokens issued)
    (only : OnlyIssued issued s.trace)
    (member : .requested source request reading call ∈ thisRun s.trace)
    (member' : .requested source' request' reading' call' ∈ thisRun s.trace)
    (same : requestMac request = requestMac request') :
    request.connectTokenExpireTimestamp = request'.connectTokenExpireTimestamp := by
  have accepted := inv.accepted _ _ _ _ member
  have accepted' := inv.accepted _ _ _ _ member'
  have isSame : call = call' := distinct.mac call call' (accepted.isIssued only)
    (accepted'.isIssued only) (by rw [← accepted.mac_eq, ← accepted'.mac_eq, same])
  subst isSame
  exact accepted.expire_eq accepted'

/-- **Requests whose tokens share a send key present one token.** -/
theorem same_of_sendKey (inv : Provenance config s) (distinct : DistinctTokens issued)
    (only : OnlyIssued issued s.trace) (presented : Presented s source request token)
    (presented' : Presented s source' request' token')
    (same : token.serverToClientKey = token'.serverToClientKey) :
    requestMac request = requestMac request' ∧
      request.connectTokenExpireTimestamp = request'.connectTokenExpireTimestamp := by
  obtain ⟨reading, call, member⟩ := presented.requested
  obtain ⟨reading', call', member'⟩ := presented'.requested
  have accepted := inv.accepted _ _ _ _ member
  have accepted' := inv.accepted _ _ _ _ member'
  have isSame : call = call' := distinct.sendKey call call' token token'
    (accepted.isIssued only) (accepted'.isIssued only) (accepted.token_eq presented.reads)
    (accepted'.token_eq presented'.reads) same
  subst isSame
  exact ⟨accepted.mac_eq.trans accepted'.mac_eq.symm, accepted.expire_eq accepted'⟩

end Tokens

/-! ### The history and the mappings -/

/-- An entry of the history for the token of a request. -/
structure Holds (entry : ConnectTokenEntry) (request : ConnectionRequest) : Prop where
  used : entry.state ≠ .free
  mac : entry.mac = requestMac request
  expire : entry.expireTimestamp = request.connectTokenExpireTimestamp

/-- The server has read a time at which the token of a request is expired. -/
def Past (s : Server) (request : ConnectionRequest) : Prop :=
  ∃ now, .clock now ∈ thisRun s.trace ∧ request.connectTokenExpireTimestamp ≤ now

/-- The history still holds the token a mapping has its keys from, with the mapping's address, or
the token has expired. -/
structure Backed (s : Server) (e : Nat) (request : ConnectionRequest) (index : Nat) : Prop where
  isIndex : (s.encryptionManager.mapping e).connectTokenEntryIndex = some index
  small : index < maxConnectTokenEntries
  used : (s.connectTokenEntries index).state ≠ .free
  entry : Holds (s.connectTokenEntries index) request ∧
      (s.connectTokenEntries index).address.Equal (s.encryptionManager.mapping e).address = true ∨
    Past s request

/-- **The history knows the token of every mapping.** -/
structure Linked (s : Server) : Prop where
  entries : ∀ k < maxConnectTokenEntries, (s.connectTokenEntries k).state ≠ .free →
    ∃ source request reading call, .requested source request reading call ∈ thisRun s.trace ∧
      Holds (s.connectTokenEntries k) request
  distinct : ∀ j < maxConnectTokenEntries, ∀ k < maxConnectTokenEntries,
    (s.connectTokenEntries j).state ≠ .free → (s.connectTokenEntries k).state ≠ .free →
    (s.connectTokenEntries j).mac = (s.connectTokenEntries k).mac → j = k
  mappings : ∀ e, Usable (s.encryptionManager.mapping e).address →
    ∃ source request token index, Origin s e source request token ∧ Backed s e request index

theorem Past.grown {request : ConnectionRequest} (past : Past s request)
    (grown : thisRun s.trace ⊆ thisRun s'.trace) : Past s' request := by
  obtain ⟨now, member, late⟩ := past
  exact ⟨now, grown member, late⟩

theorem Backed.grown {e index : Nat} {request : ConnectionRequest} (backed : Backed s e request index)
    (address : (s'.encryptionManager.mapping e).address = (s.encryptionManager.mapping e).address)
    (isIndex : (s'.encryptionManager.mapping e).connectTokenEntryIndex =
      (s.encryptionManager.mapping e).connectTokenEntryIndex)
    (entries : s'.connectTokenEntries = s.connectTokenEntries)
    (grown : thisRun s.trace ⊆ thisRun s'.trace) : Backed s' e request index := by
  refine ⟨isIndex.trans backed.isIndex, backed.small, entries ▸ backed.used, ?_⟩
  rcases backed.entry with held | past
  · rw [entries, address]
    exact .inl held
  · exact .inr (past.grown grown)

/-- A step that leaves the history and the mappings as they were. -/
theorem Linked.grown (inv : Linked s) (new : List Effect) (trace : s'.trace = new ++ s.trace)
    (inside : ∀ effect ∈ new, effect.boundary = false)
    (addresses : s'.address = s.address ∧ s'.address2 = s.address2)
    (entries : s'.connectTokenEntries = s.connectTokenEntries)
    (kept : ∀ e, Usable (s'.encryptionManager.mapping e).address →
      (s'.encryptionManager.mapping e).address = (s.encryptionManager.mapping e).address ∧
        (s'.encryptionManager.mapping e).sendKey = (s.encryptionManager.mapping e).sendKey ∧
        (s'.encryptionManager.mapping e).receiveKey = (s.encryptionManager.mapping e).receiveKey ∧
        (s'.encryptionManager.mapping e).connectTokenEntryIndex =
          (s.encryptionManager.mapping e).connectTokenEntryIndex) : Linked s' := by
  have grown : thisRun s.trace ⊆ thisRun s'.trace := fun _ => mem_thisRun_of_grown trace inside
  refine ⟨fun k small used => ?_, ?_, fun e usable => ?_⟩
  · rw [entries] at used ⊢
    obtain ⟨source, request, reading, call, member, held⟩ := inv.entries k small used
    exact ⟨source, request, reading, call, grown member, held⟩
  · rw [entries]
    exact inv.distinct
  · obtain ⟨address, sendKey, receiveKey, isIndex⟩ := kept e usable
    obtain ⟨source, request, token, index, origin, backed⟩ := inv.mappings e (address ▸ usable)
    exact ⟨source, request, token, index,
      ⟨origin.presented.grown addresses grown, address ▸ origin.address,
        sendKey.trans origin.sendKey, receiveKey.trans origin.receiveKey⟩,
      backed.grown address isIndex entries grown⟩

/-- Empty tables. -/
theorem Linked.of_reset (entries : s.connectTokenEntries = connectTokenEntriesReset)
    (manager : s.encryptionManager = .reset) : Linked s := by
  refine ⟨fun k _ used => ?_, fun j _ k _ used => ?_, fun e usable => ?_⟩
  · rw [entries] at used
    exact absurd rfl used
  · rw [entries] at used
    exact absurd rfl used
  · rw [manager] at usable
    exact absurd rfl (Address.Equal.type_ne_none usable)

/-! ### Consulting the history -/

section Requests

variable {source : Address} {request : ConnectionRequest} {token : ConnectTokenPrivate}
  {reading : UInt64}

theorem consult_cases (s : Server) (source : Address) (request : ConnectionRequest)
    (reading : UInt64) :
    FindsOrAdds s.connectTokenEntries source (requestMac request)
      request.connectTokenExpireTimestamp reading s.time (consult s source request reading) := by
  unfold consult
  exact findOrAdd_cases

/-- **A request leaves the history alone, or takes over an entry** that is free or out of date. -/
theorem noteRequest_cases (s : Server) (source : Address) (request : ConnectionRequest)
    (reading : UInt64) :
    noteRequest s source request reading = { s with trace := .clock reading :: s.trace } ∨
      ∃ index, (∀ k < maxConnectTokenEntries, (s.connectTokenEntries k).state ≠ .free →
          (s.connectTokenEntries k).mac ≠ requestMac request) ∧
        ((s.connectTokenEntries index).state = .free ∨
          (s.connectTokenEntries index).expireTimestamp ≤ reading) ∧
        noteRequest s source request reading = { s with
          connectTokenEntries := Function.update s.connectTokenEntries index
            ⟨.pending, s.time, request.connectTokenExpireTimestamp, requestMac request, source⟩
          trace := .clock reading :: s.trace } := by
  rw [noteRequest]
  have cases_ := consult_cases s source request reading
  generalize consult s source request reading = result at *
  cases cases_ with
  | refused | historyFull | admitted => exact .inl rfl
  | added index small absent reusable => exact .inr ⟨index, absent, reusable, rfl⟩

theorem Asking.presented (asking : Asking s source request token) :
    Presented s source request token := by
  obtain ⟨reading, call, earlier, head⟩ := asking.head
  exact ⟨⟨reading, call, by rw [head]; exact List.mem_cons_self⟩, asking.reads, asking.listed⟩

/-- What an overwritten entry held has expired. -/
theorem past_of_reusable {index : Nat} {request' : ConnectionRequest} {trace : List Effect}
    (reusable : (s.connectTokenEntries index).state = .free ∨
      (s.connectTokenEntries index).expireTimestamp ≤ reading)
    (held : Holds (s.connectTokenEntries index) request') (shown : s'.trace = .clock reading :: trace) :
    Past s' request' := by
  refine ⟨reading, ?_, ?_⟩
  · rw [shown]
    exact List.mem_cons_self
  · rw [← held.expire]
    exact reusable.resolve_left held.used

/-- A new entry, over a free one or over one whose token has expired. -/
theorem Linked.added (inv : Linked s) {index : Nat}
    (absent : ∀ k < maxConnectTokenEntries, (s.connectTokenEntries k).state ≠ .free →
      (s.connectTokenEntries k).mac ≠ requestMac request)
    (reusable : (s.connectTokenEntries index).state = .free ∨
      (s.connectTokenEntries index).expireTimestamp ≤ reading)
    (presented : Presented s source request token) :
    Linked { s with
      connectTokenEntries := Function.update s.connectTokenEntries index
        ⟨.pending, s.time, request.connectTokenExpireTimestamp, requestMac request, source⟩
      trace := .clock reading :: s.trace } := by
  obtain ⟨reading', call, member⟩ := presented.requested
  have grown : thisRun s.trace ⊆ thisRun (.clock reading :: s.trace) :=
    fun _ => List.mem_cons_of_mem _
  refine ⟨fun k small used => ?_, fun j smallJ k smallK usedJ usedK same => ?_, fun e usable => ?_⟩
  · by_cases here : k = index
    · subst here
      refine ⟨source, request, reading', call, grown member, ?_⟩
      simp only [Function.update_self]
      exact ⟨nofun, rfl, rfl⟩
    · simp only [Function.update_of_ne here] at used ⊢
      obtain ⟨source', request', reading'', call', member', held⟩ := inv.entries k small used
      exact ⟨source', request', reading'', call', grown member', held⟩
  · by_cases isJ : j = index <;> by_cases isK : k = index
    · exact isJ.trans isK.symm
    · subst isJ
      simp only [Function.update_self, Function.update_of_ne isK] at same usedK
      exact absurd same.symm (absent k smallK usedK)
    · subst isK
      simp only [Function.update_self, Function.update_of_ne isJ] at same usedJ
      exact absurd same (absent j smallJ usedJ)
    · simp only [Function.update_of_ne isJ, Function.update_of_ne isK] at same usedJ usedK
      exact inv.distinct j smallJ k smallK usedJ usedK same
  · obtain ⟨source', request', token', index', origin, backed⟩ := inv.mappings e usable
    refine ⟨source', request', token', index', ⟨origin.presented.grown ⟨rfl, rfl⟩ grown,
      origin.address, origin.sendKey, origin.receiveKey⟩, backed.isIndex, backed.small, ?_, ?_⟩
    · by_cases here : index' = index
      · subst here
        simp only [Function.update_self]
        exact nofun
      · simp only [Function.update_of_ne here]
        exact backed.used
    · rcases backed.entry with ⟨held, address⟩ | gone
      · by_cases here : index' = index
        · subst here
          exact .inr (past_of_reusable reusable held rfl)
        · simp only [Function.update_of_ne here]
          exact .inl ⟨held, address⟩
      · exact .inr (gone.grown grown)

/-- **Consulting the history** keeps it in order. -/
theorem Linked.ask (inv : Linked s) (asking : Asking s source request token) :
    Linked (noteRequest s source request reading) := by
  rcases noteRequest_cases s source request reading with same | ⟨index, absent, reusable, same⟩
  · rw [same]
    exact inv.grown [.clock reading] rfl (by simp [Effect.boundary]) ⟨rfl, rfl⟩ rfl
      fun _ _ => ⟨rfl, rfl, rfl, rfl⟩
  · rw [same]
    exact inv.added absent reusable asking.presented

/-- Writing one mapping. -/
theorem Linked.write (inv : Linked s) {e index : Nat} {mapping : EncryptionMapping}
    {manager : EncryptionManager}
    (writes : manager.mapping = Function.update s.encryptionManager.mapping e mapping)
    (presented : Presented s source request token)
    (address : Usable mapping.address → source.Equal mapping.address = true)
    (sendKey : mapping.sendKey = token.serverToClientKey)
    (receiveKey : mapping.receiveKey = token.clientToServerKey)
    (isIndex : mapping.connectTokenEntryIndex = some index) (small : index < maxConnectTokenEntries)
    (held : Holds (s.connectTokenEntries index) request)
    (creator : Usable mapping.address →
      (s.connectTokenEntries index).address.Equal mapping.address = true) :
    Linked { s with encryptionManager := manager } := by
  refine ⟨inv.entries, inv.distinct, fun j usable => ?_⟩
  by_cases isE : j = e
  · subst isE
    have here : manager.mapping j = mapping := by rw [writes, Function.update_self]
    rw [show ({ s with encryptionManager := manager } : Server).encryptionManager.mapping j =
      mapping from here] at usable
    refine ⟨source, request, token, index, ⟨⟨presented.requested, presented.reads,
      presented.listed⟩, ?_, ?_, ?_⟩, ⟨?_, small, held.used, .inl ⟨held, ?_⟩⟩⟩
    · exact here ▸ address usable
    · exact here ▸ sendKey
    · exact here ▸ receiveKey
    · exact here ▸ isIndex
    · exact here ▸ creator usable
  · have same : ({ s with encryptionManager := manager } : Server).encryptionManager.mapping j =
      s.encryptionManager.mapping j := by rw [writes, Function.update_of_ne isE]
    rw [same] at usable
    obtain ⟨source', request', token', index', origin, backed⟩ := inv.mappings j usable
    refine ⟨source', request', token', index', ⟨⟨origin.presented.requested,
      origin.presented.reads, origin.presented.listed⟩, ?_, ?_, ?_⟩,
      backed.grown (congrArg _ same) (congrArg _ same) rfl fun _ => id⟩
    · rw [same]
      exact origin.address
    · rw [same]
      exact origin.sendKey
    · rw [same]
      exact origin.receiveKey

/-- An admitted request is in the history, and was there before only as pending and from its own
address. -/
theorem admitted_entry {index : Nat} (inv : Linked s) (distinct : DistinctTokens issued)
    (only : OnlyIssued issued s.trace) (provenance : Provenance config s)
    (asking : Asking s source request token)
    (admits : (consult s source request reading).2 = .entry index) :
    index < maxConnectTokenEntries ∧
      Holds ((noteRequest s source request reading).connectTokenEntries index) request ∧
      (((noteRequest s source request reading).connectTokenEntries index).address = source ∨
        ((noteRequest s source request reading).connectTokenEntries index).address.Equal source =
          true) ∧
      ∀ k < maxConnectTokenEntries, ∀ request', Holds (s.connectTokenEntries k) request' →
        requestMac request' = requestMac request →
        (s.connectTokenEntries k).state = .pending ∧
          (s.connectTokenEntries k).address.Equal source = true := by
  obtain ⟨reading', call, member⟩ := asking.presented.requested
  rw [noteRequest]
  have cases_ := consult_cases s source request reading
  generalize consult s source request reading = result at *
  cases cases_ with
  | refused => cases admits
  | historyFull => cases admits
  | admitted index' small pending holds creator =>
    cases admits
    have used : (s.connectTokenEntries index).state ≠ .free := by
      rw [pending]
      exact nofun
    obtain ⟨source', request', reading'', call', member', held⟩ := inv.entries index small used
    have expire := expire_eq_of_mac provenance distinct only member member'
      (holds.symm.trans held.mac)
    refine ⟨small, ⟨used, holds, held.expire.trans expire.symm⟩, .inr creator,
      fun k smallK request'' heldK same => ?_⟩
    have isIndex : k = index := inv.distinct k smallK index small heldK.used used
      (heldK.mac.trans (same.trans holds.symm))
    subst isIndex
    exact ⟨pending, creator⟩
  | added index' small absent reusable =>
    cases admits
    simp only [Function.update_self]
    refine ⟨small, ⟨nofun, rfl, rfl⟩, .inl trivial, fun k smallK request' heldK same => ?_⟩
    exact absurd (heldK.mac.trans same) (absent k smallK heldK.used)

/-- The address a request's mapping is written for. -/
theorem mapping_address {mapping : EncryptionMapping}
    (address : mapping.address = source ∨ mapping.address.Equal source = true)
    (usable : Usable mapping.address) : source.Equal mapping.address = true := by
  rcases address with isSource | same
  · rw [← isSource]
    exact usable
  · exact Address.Equal.symm same

/-- **Admitting a request.** -/
theorem Linked.grant {index e : Nat} {mapping : EncryptionMapping} {manager : EncryptionManager}
    (inv : Linked s) (distinct : DistinctTokens issued) (only : OnlyIssued issued s.trace)
    (provenance : Provenance config s) (asking : Asking s source request token)
    (admits : (consult s source request reading).2 = .entry index)
    (writes : manager.mapping = Function.update s.encryptionManager.mapping e mapping)
    (added : EncryptionManager.Added mapping token.serverToClientKey token.clientToServerKey s.time
      (mappingExpireTime env s token) token.timeoutSeconds index)
    (address : mapping.address = source ∨ mapping.address.Equal source = true) :
    Linked { noteRequest s source request reading with encryptionManager := manager } := by
  obtain ⟨small, held, creator, -⟩ := admitted_entry inv distinct only provenance asking admits
  have grown : thisRun s.trace ⊆ thisRun (noteRequest s source request reading).trace :=
    fun _ => List.mem_cons_of_mem _
  refine (inv.ask asking).write writes (asking.presented.grown ⟨rfl, rfl⟩ grown)
    (mapping_address address) added.sendKey added.receiveKey added.connectTokenEntryIndex small held
    fun usable => ?_
  rcases creator with isSource | same
  · rw [isSource]
    exact mapping_address address usable
  · exact Address.Equal.trans same (mapping_address address usable)

end Requests

/-! ### Installing a client -/

section Install

variable {source : Address} {e i : Nat} {clientID : UInt64} {timeout : Int32} {userData : UserData}

theorem installClient_entries (s : Server) (i : Nat) (source : Address) (clientID : UInt64)
    (timeout : Int32) (userData : UserData) {index : Nat}
    (isIndex : (s.encryptionManager.mapping e).connectTokenEntryIndex = some index) :
    (installClient s i source clientID e timeout userData).connectTokenEntries =
      connectTokenEntriesConsume s.connectTokenEntries index := by
  have same : ((installClient s i source clientID e timeout userData).encryptionManager.mapping
      e).connectTokenEntryIndex = some index := by
    rw [installClient_manager]
    simpa [EncryptionManager.set] using isIndex
  unfold installClient at same ⊢
  simp only [EncryptionManager.getConnectTokenEntryIndex] at same ⊢
  rw [same]

theorem installClient_trace (s : Server) (i : Nat) (source : Address) (clientID : UInt64) (e : Nat)
    (timeout : Int32) (userData : UserData) :
    (installClient s i source clientID e timeout userData).trace =
      .installed i source e (s.encryptionManager.mapping e).sendKey
        (s.encryptionManager.mapping e).receiveKey :: s.trace := by
  simp [installClient, EncryptionManager.setClientIndex, EncryptionManager.setExpireTime,
    EncryptionManager.set]

/-- Consuming an entry changes what no other part of the ledger reads. -/
theorem consume_entry {entries : ConnectTokenEntries} {index : Nat}
    (used : (entries index).state ≠ .free) (k : Nat) :
    (connectTokenEntriesConsume entries index k).mac = (entries k).mac ∧
      (connectTokenEntriesConsume entries index k).address = (entries k).address ∧
      ((connectTokenEntriesConsume entries index k).state ≠ .free ↔ (entries k).state ≠ .free) ∧
      ((entries k).state = .consumed →
        (connectTokenEntriesConsume entries index k).state = .consumed) ∧
      ∀ request, Holds (entries k) request →
        Holds (connectTokenEntriesConsume entries index k) request := by
  obtain ⟨state, isEntry, same | ⟨here, consumed⟩⟩ :=
    connectTokenEntriesConsume_cases entries index k
  · rw [isEntry, same]
    exact ⟨rfl, rfl, Iff.rfl, id, fun _ => id⟩
  · subst here
    rw [isEntry, consumed]
    exact ⟨rfl, rfl, ⟨fun _ => used, fun _ => nofun⟩, fun _ => rfl,
      fun request held => ⟨nofun, held.mac, held.expire⟩⟩

/-- Installing a client changes no address, key or index of a mapping. -/
theorem installClient_keeps (s : Server) (i : Nat) (source : Address) (clientID : UInt64) (e : Nat)
    (timeout : Int32) (userData : UserData) (j : Nat) :
    let s' := installClient s i source clientID e timeout userData
    (s'.encryptionManager.mapping j).address = (s.encryptionManager.mapping j).address ∧
      (s'.encryptionManager.mapping j).sendKey = (s.encryptionManager.mapping j).sendKey ∧
      (s'.encryptionManager.mapping j).receiveKey = (s.encryptionManager.mapping j).receiveKey ∧
      (s'.encryptionManager.mapping j).connectTokenEntryIndex =
        (s.encryptionManager.mapping j).connectTokenEntryIndex := by
  dsimp only
  rw [installClient_manager]
  by_cases here : j = e
  · subst here
    simp [EncryptionManager.set]
  · simp [EncryptionManager.set, here]

/-- **Installing a client** consumes the entry of its mapping. -/
theorem Linked.install (inv : Linked s)
    (found : s.encryptionManager.lookup env source s.time = some e) :
    Linked (installClient s i source clientID e timeout userData) := by
  obtain ⟨-, equal, -, -⟩ := EncryptionManager.lookup_eq_some.mp found
  obtain ⟨source₁, request₁, token₁, index, origin, backed⟩ := inv.mappings e (usable_of_equal equal)
  have entries := installClient_entries s i source clientID timeout userData backed.isIndex
  have trace := installClient_trace s i source clientID e timeout userData
  have kept := installClient_keeps s i source clientID e timeout userData
  have addresses : (installClient s i source clientID e timeout userData).address = s.address ∧
      (installClient s i source clientID e timeout userData).address2 = s.address2 := ⟨rfl, rfl⟩
  dsimp only at kept
  generalize installClient s i source clientID e timeout userData = s' at *
  have grown : thisRun s.trace ⊆ thisRun s'.trace := by
    rw [trace]
    exact fun _ => List.mem_cons_of_mem _
  have keeps := consume_entry backed.used
  refine ⟨fun k small used => ?_, fun j smallJ k smallK usedJ usedK same => ?_, fun j usableJ => ?_⟩
  · rw [entries] at used ⊢
    obtain ⟨source', request, reading, call, member, held⟩ :=
      inv.entries k small ((keeps k).2.2.1.mp used)
    exact ⟨source', request, reading, call, grown member, (keeps k).2.2.2.2 request held⟩
  · rw [entries] at usedJ usedK same
    rw [(keeps j).1, (keeps k).1] at same
    exact inv.distinct j smallJ k smallK ((keeps j).2.2.1.mp usedJ) ((keeps k).2.2.1.mp usedK) same
  · obtain ⟨address, sendKey, receiveKey, isIndex⟩ := kept j
    obtain ⟨source', request, token, index', origin', backed'⟩ := inv.mappings j (address ▸ usableJ)
    refine ⟨source', request, token, index', ⟨origin'.presented.grown addresses grown,
      address ▸ origin'.address, sendKey.trans origin'.sendKey, receiveKey.trans origin'.receiveKey⟩,
      isIndex.trans backed'.isIndex, backed'.small, ?_, ?_⟩
    · rw [entries]
      exact (keeps index').2.2.1.mpr backed'.used
    · rcases backed'.entry with ⟨held, creator⟩ | past
      · rw [entries, (keeps index').2.1, address]
        exact .inl ⟨(keeps index').2.2.2.2 request held, creator⟩
      · exact .inr (past.grown grown)

end Install

/-! ### Runs -/

theorem Linked.step (inv : Linked s) (distinct : DistinctTokens issued)
    (provenance : Provenance config s) (step : TokenStep env config s s')
    (only : OnlyIssued issued s'.trace) : Linked s' := by
  cases step with
  | quiet quiet =>
    obtain ⟨new, trace, noToken⟩ := quiet.trace
    exact inv.grown new trace (Quiet.inside noToken) quiet.addresses quiet.entries quiet.kept
  | openRequest source reading data request call =>
    exact inv.grown [.requested source request reading call, .opened .connectToken call] rfl
      (by simp [Effect.boundary]) ⟨rfl, rfl⟩ rfl (fun _ _ => ⟨rfl, rfl, rfl, rfl⟩)
  | ask source request token reading asking => exact inv.ask asking
  | grant source request token reading index e mapping manager asking admits writes added address =>
    exact inv.grant distinct only provenance asking admits writes added address
  | install source e i clientID userData found free => exact inv.install found
  | boundary effect new isBoundary noToken trace entries manager => exact .of_reset entries manager

theorem Run.linked {calls : List Call} (quiet : config.NonReentrant)
    (distinct : DistinctTokens issued) (run : Run env config calls s)
    (only : OnlyIssued issued s.trace) : Provenance config s ∧ Linked s :=
  Run.along (OnlyIssued issued) (fun s => Provenance config s ∧ Linked s) quiet
    (fun _ _ suffix => .of_suffix suffix)
    (fun address address2 time => ⟨.new config address address2 time, .of_reset rfl rfl⟩)
    (fun _ _ binding atom met held =>
      have step := atom.tokenStep binding
      ⟨held.1.step step, held.2.step distinct held.1 step met⟩)
    run only

/-! ### The points of a run -/

/-- **A point of a run**: the state after its calls, or after some steps of the next one. -/
inductive Passes (env : Platform) (config : ServerConfig) : Server → Prop
  | run {calls : List Call} {s : Server} (run : Run env config calls s) : Passes env config s
  | atom {s s' : Server} (before : Passes env config s) (atom : Atom env config s s') :
      Passes env config s'

theorem Passes.binding (quiet : config.NonReentrant) (passes : Passes env config s) :
    Binding env s := by
  induction passes with
  | run run => exact run.binding quiet
  | atom _ atom ih => exact ih.atom atom

theorem Passes.linked (quiet : config.NonReentrant) (distinct : DistinctTokens issued)
    (passes : Passes env config s) (only : OnlyIssued issued s.trace) :
    Provenance config s ∧ Linked s := by
  induction passes with
  | run run => exact run.linked quiet distinct only
  | atom before atom ih =>
    obtain ⟨provenance, linked⟩ := ih (only.of_suffix atom.grows)
    have step := atom.tokenStep (before.binding quiet)
    exact ⟨provenance.step step, linked.step distinct provenance step only⟩

/-- **Where a client is accepted**: at a point of the way to `s` whose trace is `earlier`, one step
installs it. -/
def AcceptedAt (env : Platform) (config : ServerConfig) (s : Server) : Effect → List Effect → Prop
  | .installed i address e sendKey receiveKey, earlier => ∃ t t', Passes env config t ∧
      Atom env config t t' ∧ ReflTransGen (Atom env config) t' s ∧ t.trace = earlier ∧
        t'.trace = .installed i address e sendKey receiveKey :: earlier
  | _, _ => True

theorem acceptedAt_of_other {effect : Effect} {earlier : List Effect}
    (other : ∀ i address e sendKey receiveKey,
      effect ≠ .installed i address e sendKey receiveKey) :
    AcceptedAt env config s effect earlier := by
  cases effect with
  | installed => exact absurd rfl (other _ _ _ _ _)
  | _ => trivial

theorem AcceptedAt.later {effect : Effect} {earlier : List Effect}
    (accepted : AcceptedAt env config s effect earlier) (atom : Atom env config s s') :
    AcceptedAt env config s' effect earlier := by
  cases effect with
  | installed =>
    obtain ⟨t, t', passes, installs, chain, traces⟩ := accepted
    exact ⟨t, t', passes, installs, chain.tail atom, traces⟩
  | _ => trivial

theorem Atom.acceptedAt (quiet : config.NonReentrant) (passes : Passes env config s)
    (atom : Atom env config s s') (before : Always (AcceptedAt env config s) s.trace) :
    Always (AcceptedAt env config s') s'.trace := by
  have before : Always (AcceptedAt env config s') s.trace :=
    before.mono fun _ _ accepted => accepted.later atom
  have quietly : ∀ new : List Effect, new.any Effect.tokenEvent = false →
      Always (AcceptedAt env config s') (new ++ s.trace) := by
    intro new noToken
    refine before.append fun effect member earlier => acceptedAt_of_other ?_
    rintro i address e sendKey receiveKey rfl
    exact List.any_eq_false.mp noToken _ member rfl
  have here : ∀ {i address e sendKey receiveKey},
      s'.trace = .installed i address e sendKey receiveKey :: s.trace →
      AcceptedAt env config s' (.installed i address e sendKey receiveKey) s.trace :=
    fun trace => ⟨s, s', passes, atom, .refl, rfl, trace⟩
  cases atom.tokenStep (passes.binding quiet) with
  | quiet quiet =>
    obtain ⟨new, trace, noToken⟩ := quiet.trace
    rw [trace]
    exact quietly new noToken
  | openRequest => exact ⟨trivial, trivial, before⟩
  | ask => exact ⟨trivial, before⟩
  | grant => exact ⟨trivial, before⟩
  | install source e i clientID userData =>
    have trace := installClient_trace s i source clientID e (s.encryptionManager.mapping e).timeout
      userData
    rw [trace]
    exact ⟨here trace, before⟩
  | boundary effect new isBoundary noToken trace =>
    rw [trace]
    refine ⟨acceptedAt_of_other ?_, quietly new noToken⟩
    rintro i address e sendKey receiveKey rfl
    cases isBoundary

/-- **Every installation a run shows is an accepted client.** -/
theorem Run.acceptedAt {calls : List Call} (quiet : config.NonReentrant)
    (run : Run env config calls s) : Always (AcceptedAt env config s) s.trace := by
  have along : ∀ {s s'}, ReflTransGen (Atom env config) s s' → Passes env config s →
      Always (AcceptedAt env config s) s.trace →
      Passes env config s' ∧ Always (AcceptedAt env config s') s'.trace := by
    intro s s' chain passes before
    induction chain with
    | refl => exact ⟨passes, before⟩
    | tail _ last ih => exact ⟨ih.1.atom last, last.acceptedAt quiet ih.1 ih.2⟩
  induction run with
  | new => trivial
  | step run call forward done ih =>
    exact (along (step_chain quiet (run.binding quiet) forward done) (.run run) ih).2

/-- **A step that shows an installation** is that of `connectClient`, on the live mapping of the
address. -/
theorem Atom.installs (binding : Binding env s) (atom : Atom env config s s') {i e : Nat}
    {address : Address} {sendKey receiveKey : Key}
    (trace : s'.trace = .installed i address e sendKey receiveKey :: s.trace) :
    s.encryptionManager.lookup env address s.time = some e ∧
      ∃ clientID timeout userData, s' = installClient s i address clientID e timeout userData := by
  cases atom.tokenStep binding with
  | quiet quiet =>
    obtain ⟨new, isTrace, noToken⟩ := quiet.trace
    obtain rfl := List.append_cancel_right (isTrace.symm.trans trace : new ++ _ = [_] ++ _)
    cases noToken
  | openRequest | ask | grant => cases trace
  | install source e i clientID userData found =>
    cases (installClient_trace _ _ _ _ _ _ _).symm.trans trace
    exact ⟨found, clientID, _, userData, rfl⟩
  | boundary effect new isBoundary noToken isTrace =>
    cases (List.cons.inj (isTrace.symm.trans trace)).1
    cases isBoundary

/-! ### Consuming an entry -/

/-- What the history answers for a token, once the entry of another one is consumed. -/
theorem findOrAdd_consume_other {entries : ConnectTokenEntries} {index : Nat} {mac : Mac}
    (used : (entries index).state ≠ .free) (other : mac ≠ (entries index).mac) (address : Address)
    (expireTimestamp currentTimestamp : UInt64) (time : ℚ) :
    (connectTokenEntriesFindOrAdd (connectTokenEntriesConsume entries index) address mac
      expireTimestamp currentTimestamp time).2 =
    (connectTokenEntriesFindOrAdd entries address mac expireTimestamp currentTimestamp time).2 := by
  have same : ∀ k, ((connectTokenEntriesConsume entries index k).state = .free ↔
      (entries k).state = .free) ∧
      (connectTokenEntriesConsume entries index k).mac = (entries k).mac ∧
      (connectTokenEntriesConsume entries index k).expireTimestamp = (entries k).expireTimestamp ∧
      (k ≠ index → connectTokenEntriesConsume entries index k = entries k) := by
    intro k
    obtain ⟨state, isEntry, isState⟩ := connectTokenEntriesConsume_cases entries index k
    rw [isEntry]
    rcases isState with rfl | ⟨here, consumed⟩
    · exact ⟨Iff.rfl, rfl, rfl, fun _ => rfl⟩
    · subst here consumed
      exact ⟨⟨fun impossible => (by cases impossible), fun free => absurd free used⟩, rfl, rfl,
        fun away => absurd rfl away⟩
  have matching : matchingTokenIndex (connectTokenEntriesConsume entries index) mac =
      matchingTokenIndex entries mac := by
    simp only [matchingTokenIndex, ne_eq, fun k => (same k).1, fun k => (same k).2.1]
  have free : freeTokenIndex (connectTokenEntriesConsume entries index) currentTimestamp =
      freeTokenIndex entries currentTimestamp := by
    simp only [freeTokenIndex, fun k => (same k).1, fun k => (same k).2.2.1]
  unfold connectTokenEntriesFindOrAdd
  rw [matching, free]
  cases found : matchingTokenIndex entries mac with
  | none => cases freeTokenIndex entries currentTimestamp <;> rfl
  | some k =>
    -- the entry that answers is not the one consumed
    have away : k ≠ index := by
      rintro rfl
      exact other (matchingTokenIndex_eq_some found).2.2.symm
    dsimp only
    rw [(same k).2.2.2 away]
    split_ifs <;> rfl

/-- **A client that is accepted consumes the entry of its own token.** Each installation a run shows is
one step from a point of the run. At every point, such a step takes place on a mapping with the keys of
a token presented in this run; and if no reading of the clock up to there has reached the expire
timestamp of that token, the entry consumed holds its MAC, and what the history answers for any other
MAC stays what it was. -/
theorem consume_own_token (quiet : config.NonReentrant) (distinct : DistinctTokens issued) :
    (∀ calls s, Run env config calls s → ∀ later earlier i address e sendKey receiveKey,
      s.trace = later ++ .installed i address e sendKey receiveKey :: earlier →
      ∃ t t', Passes env config t ∧ Atom env config t t' ∧ ReflTransGen (Atom env config) t' s ∧
        t.trace = earlier ∧ t'.trace = .installed i address e sendKey receiveKey :: earlier) ∧
    ∀ t t', Passes env config t → OnlyIssued issued t.trace → Atom env config t t' →
      ∀ i address e sendKey receiveKey,
      t'.trace = .installed i address e sendKey receiveKey :: t.trace →
      ∃ source request token, Origin t e source request token ∧
        ((∀ now, .clock now ∈ thisRun t.trace → now < request.connectTokenExpireTimestamp) →
          ∃ index, (t.connectTokenEntries index).mac = requestMac request ∧
            t'.connectTokenEntries = connectTokenEntriesConsume t.connectTokenEntries index ∧
            ∀ mac, mac ≠ requestMac request → ∀ address' expireTimestamp currentTimestamp time,
              (connectTokenEntriesFindOrAdd t'.connectTokenEntries address' mac expireTimestamp
                currentTimestamp time).2 =
              (connectTokenEntriesFindOrAdd t.connectTokenEntries address' mac expireTimestamp
                currentTimestamp time).2) := by
  refine ⟨fun calls s run later earlier i address e sendKey receiveKey shown => ?_,
    fun t t' passes only atom i address e sendKey receiveKey installs => ?_⟩
  · have accepted := run.acceptedAt quiet
    rw [shown] at accepted
    exact accepted.at
  · obtain ⟨found, clientID, timeout, userData, rfl⟩ := atom.installs (passes.binding quiet) installs
    obtain ⟨-, equal, -, -⟩ := EncryptionManager.lookup_eq_some.mp found
    obtain ⟨-, linked⟩ := passes.linked quiet distinct only
    obtain ⟨source, request, token, index, origin, backed⟩ := linked.mappings e (usable_of_equal equal)
    refine ⟨source, request, token, origin, fun unexpired => ?_⟩
    have held : Holds (t.connectTokenEntries index) request := by
      rcases backed.entry with ⟨held, -⟩ | ⟨now, member, late⟩
      · exact held
      · exact absurd (unexpired now member) (UInt64.not_lt.mpr late)
    have entries := installClient_entries t i address clientID timeout userData backed.isIndex
    refine ⟨index, held.mac, entries, fun mac other address' expire now time => ?_⟩
    rw [entries]
    exact findOrAdd_consume_other held.used (held.mac ▸ other) address' expire now time

end Server

/-! ### An entry that is recycled -/

namespace Sample

/-- A token without timeouts: its mapping waits for ever. -/
def patient : ConnectTokenPrivate := { first with timeoutSeconds := -1 }

/-- The tokens of two clients, the first one with an early expiry. -/
def issuedPatient : List AeadCall := [sealToken patient 1040, sealToken second 1100]

theorem issuedPatient_distinct : DistinctTokens (· ∈ issuedPatient) :=
  .of_nodup (by decide +kernel) (by decide +kernel)

/-- The first client asks at second 1001. Its token expires at second 1040, and at second 1050 the
request of a second client takes over its entry. -/
def recycled : List Server.Call :=
  [.start 2 challengeKey 1000,
    .processPacket firstAddress (request patient 1040) 1001 1001,
    .update 49 1050 [],
    .processPacket secondAddress (request second 1100) 1050 1050]

/-- Now the first client answers its challenge. -/
def answerLate : Server.Call := .processPacket firstAddress (response patient patient 0 1) 1051 1051

/-- The MAC of the second client's token. -/
def secondMac : Mac := (sealToken second 1100).mac

end Sample

namespace Server

/-- A trace in which no reading has reached the expire timestamp of a request. -/
def Unexpired (expireTimestamp : UInt64) : Effect → Bool
  | .requested _ request _ _ => request.connectTokenExpireTimestamp = expireTimestamp
  | .clock now => now < expireTimestamp
  | _ => true

/-- A client that is accepted before its token expires consumes its entry. -/
theorem consume_own_token_connected : ∃ t t' request index, Passes samplePlatform Sample.config t ∧
    Atom samplePlatform Sample.config t t' ∧
      (t.connectTokenEntries index).mac = requestMac request ∧
      t'.connectTokenEntries = connectTokenEntriesConsume t.connectTokenEntries index := by
  have connects : (execute samplePlatform Sample.config Sample.server
      [.start 2 Sample.challengeKey 1000,
        .processPacket Sample.firstAddress (Sample.request Sample.patient 1040) 1001 1001,
        .processPacket Sample.firstAddress (Sample.response Sample.patient Sample.patient 0 1) 1001
          1001]).map (fun s => decide (OnlyIssued (· ∈ Sample.issuedPatient) s.trace ∧
        .installed 0 Sample.firstAddress 0 Sample.patient.serverToClientKey
          Sample.patient.clientToServerKey ∈ s.trace ∧
        s.trace.all (Unexpired 1040) = true)) = some true := by
    decide +kernel
  obtain ⟨s, done, facts⟩ := Option.map_eq_some_iff.mp connects
  obtain ⟨only, installed, unexpired⟩ := of_decide_eq_true facts
  obtain ⟨later, earlier, shown⟩ := List.append_of_mem installed
  obtain ⟨accepted, consumes⟩ := @consume_own_token samplePlatform Sample.config _
    Sample.config_nonReentrant Sample.issuedPatient_distinct
  obtain ⟨t, t', passes, atom, -, rfl, installs⟩ := accepted _ s (Sample.server_run.execute done) _ _ _
    _ _ _ _ shown
  have before : t.trace <:+ s.trace := by
    rw [shown]
    exact (List.suffix_cons _ _).trans (List.suffix_append _ _)
  obtain ⟨source, request, token, origin, consumes⟩ := consumes t t' passes (only.of_suffix before) atom
    _ _ _ _ _ installs
  have each : ∀ effect ∈ thisRun t.trace, Unexpired 1040 effect = true := fun effect member =>
    List.all_eq_true.mp unexpired effect (before.subset (mem_of_mem_thisRun member))
  obtain ⟨index, mac, entries, -⟩ := consumes fun now member => by
    obtain ⟨reading, call, requested⟩ := origin.presented.requested
    rw [of_decide_eq_true (each _ requested)]
    exact of_decide_eq_true (each _ member)
  exact ⟨t, t', request, index, passes, atom, mac, entries⟩

/-- **A client that answers after its token has expired consumes another client's entry.** The clock
never goes back, and the first client's keys are installed. The entry consumed holds the MAC of the
second client's token, which the history admitted before and refuses from then on. -/
theorem consume_other_token : ∃ calls t s,
    Run samplePlatform Sample.config calls t ∧
      step samplePlatform Sample.config t Sample.answerLate = some s ∧
      OnlyIssued (· ∈ Sample.issuedPatient) s.trace ∧ ClockForward s.trace ∧
      .installed 0 Sample.firstAddress 0 Sample.patient.serverToClientKey
        Sample.patient.clientToServerKey ∈ s.trace ∧
      (t.connectTokenEntries 0).mac = Sample.secondMac ∧
      (s.connectTokenEntries 0).state = .consumed ∧
      (connectTokenEntriesFindOrAdd t.connectTokenEntries Sample.secondAddress Sample.secondMac 1100
        1051 49).2 = .entry 0 ∧
      (connectTokenEntriesFindOrAdd s.connectTokenEntries Sample.secondAddress Sample.secondMac 1100
        1051 49).2 = .refused := by
  have runs : (execute samplePlatform Sample.config Sample.server Sample.recycled).map (fun t =>
      ((step samplePlatform Sample.config t Sample.answerLate).map fun s =>
        decide (OnlyIssued (· ∈ Sample.issuedPatient) s.trace ∧ ClockForward s.trace ∧
          .installed 0 Sample.firstAddress 0 Sample.patient.serverToClientKey
            Sample.patient.clientToServerKey ∈ s.trace ∧
          (t.connectTokenEntries 0).mac = Sample.secondMac ∧
          (s.connectTokenEntries 0).state = .consumed ∧
          (connectTokenEntriesFindOrAdd t.connectTokenEntries Sample.secondAddress Sample.secondMac
            1100 1051 49).2 = .entry 0 ∧
          (connectTokenEntriesFindOrAdd s.connectTokenEntries Sample.secondAddress Sample.secondMac
            1100 1051 49).2 = .refused))) = some (some true) := by
    decide +kernel
  obtain ⟨t, done, facts⟩ := Option.map_eq_some_iff.mp runs
  obtain ⟨s, answers, facts⟩ := Option.map_eq_some_iff.mp facts
  exact ⟨_, t, s, Sample.server_run.execute done, answers, of_decide_eq_true facts⟩

end Server

end Netcode
