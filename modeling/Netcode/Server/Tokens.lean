/-
**A connect token is used once.**

The history of connect tokens is what keeps a token from being installed twice: an entry is found by
the MAC of the token, admits only the address that created it, is consumed when a client is
installed, and is recycled only once its token has expired. So a token whose entry is gone has
expired, and `readPacket` ignores it.

The last step needs the two readings of the clock to agree. A batch of datagrams is read against the
reading taken at its start, while the history recycles against a later one; `FreshRequests` says
that no request is accepted once the server has read a time at which its token is expired.

* `Ledger` — the invariant that ties history, mappings and installations together;
* `connect_token_single_use` — in runs with fresh requests, **no token is installed twice**;
* `connect_token_reused_in_batch` — a batch in which one is.
-/

import Netcode.Server.Entries

namespace Netcode

open Trace

/-- The send and receive keys of every installation. -/
def installations (trace : List Effect) : List (Key × Key) :=
  trace.filterMap fun
    | .installed _ _ _ sendKey receiveKey => some (sendKey, receiveKey)
    | _ => none

/-- The request an effect accepts. -/
def Effect.request? : Effect → Option ConnectionRequest
  | .requested _ request _ _ => some request
  | _ => none

/-- **No request is accepted after its token was seen expired**: every clock reading of this run
before it is earlier than its expire timestamp. -/
def FreshRequests (trace : List Effect) : Prop :=
  Always (fun effect earlier => ∀ request ∈ effect.request?,
    ∀ now ∈ clockReadings (thisRun earlier), now < request.connectTokenExpireTimestamp) trace

-- decided along the list, never by running through the 2^64 values of the type
instance decidableForallReadings (readings : List UInt64) (P : UInt64 → Prop) [DecidablePred P] :
    Decidable (∀ now ∈ readings, P now) :=
  List.decidableBAll P readings

instance (trace : List Effect) : Decidable (FreshRequests trace) :=
  inferInstanceAs (Decidable (Always _ trace))

/-- No effect installs a send key that was installed before in its run. -/
def InstallsOnce (trace : List Effect) : Prop :=
  Always (fun effect earlier => ∀ i address e sendKey receiveKey,
    effect = .installed i address e sendKey receiveKey →
      ∀ i' address' e' receiveKey',
        .installed i' address' e' sendKey receiveKey' ∉ thisRun earlier) trace

/-- Effects that install nothing. -/
theorem InstallsOnce.grown {new trace : List Effect} (once : InstallsOnce trace)
    (none : ∀ i address e sendKey receiveKey, .installed i address e sendKey receiveKey ∉ new) :
    InstallsOnce (new ++ trace) :=
  once.append fun _ member _ i address e sendKey receiveKey isInstalled =>
    absurd (isInstalled ▸ member) (none i address e sendKey receiveKey)

theorem InstallsOnce.count_le {trace : List Effect} (once : InstallsOnce trace)
    (sendKey receiveKey : Key) :
    (installations (thisRun trace)).count (sendKey, receiveKey) ≤ 1 := by
  induction trace with
  | nil => simp [thisRun, installations]
  | cons effect earlier ih =>
    by_cases isBoundary : effect.boundary = true
    · simp [thisRun_boundary isBoundary, installations]
    · rw [thisRun_cons (by simpa using isBoundary)]
      by_cases isInstalled : ∃ i address e, effect = .installed i address e sendKey receiveKey
      · -- the first installation of these keys: none came before
        obtain ⟨i, address, e, rfl⟩ := isInstalled
        have before := once.1 i address e sendKey receiveKey rfl
        have absent : (sendKey, receiveKey) ∉ installations (thisRun earlier) := by
          intro member
          obtain ⟨effect, inTrace, isKeys⟩ := List.mem_filterMap.mp member
          split at isKeys
          · cases isKeys
            exact before _ _ _ _ inTrace
          · cases isKeys
        have count : (installations (.installed i address e sendKey receiveKey ::
            thisRun earlier)).count (sendKey, receiveKey) =
              (installations (thisRun earlier)).count (sendKey, receiveKey) + 1 :=
          List.count_cons_self
        rw [count, List.count_eq_zero_of_not_mem absent]
      · refine le_trans (le_of_eq ?_) (ih once.2)
        unfold installations
        rw [List.filterMap_cons]
        split
        · rfl
        · rename_i keys isKeys
          refine List.count_cons_of_ne fun same => isInstalled ?_
          split at isKeys
          · rename_i i address e sendKey' receiveKey'
            cases isKeys
            cases same
            exact ⟨i, address, e, rfl⟩
          · cases isKeys

namespace Server

variable {env : Platform} {config : ServerConfig} {s s' : Server} {issued : AeadCall → Prop}

/-! ### History, mappings and installations -/

/-- **The history accounts for every mapping and every installation.** -/
structure Ledger (env : Platform) (s : Server) : Prop extends Linked s where
  /-- A token that was installed has a consumed entry, or has expired. -/
  consumed : ∀ i address e sendKey receiveKey,
    .installed i address e sendKey receiveKey ∈ thisRun s.trace →
    ∃ source request token, Presented s source request token ∧
      token.serverToClientKey = sendKey ∧
      ((∃ k < maxConnectTokenEntries, (s.connectTokenEntries k).state = .consumed ∧
        Holds (s.connectTokenEntries k) request) ∨ Past s request)
  /-- Mappings with the keys of one token have one address. -/
  together : ∀ e e', Usable (s.encryptionManager.mapping e).address →
    Usable (s.encryptionManager.mapping e').address →
    (s.encryptionManager.mapping e).sendKey = (s.encryptionManager.mapping e').sendKey →
    (s.encryptionManager.mapping e).address.Equal (s.encryptionManager.mapping e').address = true
  /-- A mapping with installed keys has a client, or has expired. -/
  spent : ∀ e, Usable (s.encryptionManager.mapping e).address → ∀ i address e' receiveKey,
    .installed i address e' (s.encryptionManager.mapping e).sendKey receiveKey ∈ thisRun s.trace →
    (s.encryptionManager.mapping e).clientIndex ≠ none ∨
      (s.encryptionManager.mapping e).expired env s.time = true
  once : InstallsOnce s.trace

/-- A step that installs nothing and leaves the history and the mappings as they were. -/
theorem Ledger.grown (inv : Ledger env s) (new : List Effect) (trace : s'.trace = new ++ s.trace)
    (none : ∀ i address e sendKey receiveKey, .installed i address e sendKey receiveKey ∉ new)
    (inside : ∀ effect ∈ new, effect.boundary = false)
    (addresses : s'.address = s.address ∧ s'.address2 = s.address2)
    (entries : s'.connectTokenEntries = s.connectTokenEntries)
    (kept : ∀ e, Usable (s'.encryptionManager.mapping e).address →
      (s'.encryptionManager.mapping e).address = (s.encryptionManager.mapping e).address ∧
        (s'.encryptionManager.mapping e).sendKey = (s.encryptionManager.mapping e).sendKey ∧
        (s'.encryptionManager.mapping e).receiveKey = (s.encryptionManager.mapping e).receiveKey ∧
        (s'.encryptionManager.mapping e).connectTokenEntryIndex =
          (s.encryptionManager.mapping e).connectTokenEntryIndex)
    (settled : ∀ e, Usable (s'.encryptionManager.mapping e).address →
      ((s.encryptionManager.mapping e).clientIndex ≠ .none →
          (s'.encryptionManager.mapping e).clientIndex ≠ .none) ∧
        ((s.encryptionManager.mapping e).clientIndex = .none →
          (s.encryptionManager.mapping e).expired env s.time = true →
          (s'.encryptionManager.mapping e).expired env s'.time = true)) : Ledger env s' := by
  have grown : thisRun s.trace ⊆ thisRun s'.trace := fun _ => mem_thisRun_of_grown trace inside
  have old : ∀ i address e sendKey receiveKey,
      .installed i address e sendKey receiveKey ∈ thisRun s'.trace →
      .installed i address e sendKey receiveKey ∈ thisRun s.trace := by
    intro i address e sendKey receiveKey member
    rw [trace, thisRun_append inside] at member
    exact (List.mem_append.mp member).resolve_left (none i address e sendKey receiveKey)
  refine ⟨inv.toLinked.grown new trace inside addresses entries kept,
    fun i address e sendKey receiveKey member => ?_, fun e e' usable usable' same => ?_,
    fun e usable i address e' receiveKey member => ?_, ?_⟩
  · obtain ⟨source, request, token, presented, isKey, rest⟩ :=
      inv.consumed _ _ _ _ _ (old _ _ _ _ _ member)
    refine ⟨source, request, token, presented.grown addresses grown, isKey, ?_⟩
    rw [entries]
    exact rest.imp_right fun past => past.grown grown
  · obtain ⟨address, sendKey, -, -⟩ := kept e usable
    obtain ⟨address', sendKey', -, -⟩ := kept e' usable'
    rw [sendKey, sendKey'] at same
    rw [address] at usable ⊢
    rw [address'] at usable' ⊢
    exact inv.together e e' usable usable' same
  · obtain ⟨address, sendKey, -, -⟩ := kept e usable
    rw [sendKey] at member
    obtain ⟨held, expired⟩ := settled e usable
    rcases inv.spent e (address ▸ usable) _ _ _ _ (old _ _ _ _ _ member) with bound | dead
    · exact .inl (held bound)
    · by_cases free : (s.encryptionManager.mapping e).clientIndex = .none
      · exact .inr (expired free dead)
      · exact .inl (held free)
  · rw [trace]
    exact inv.once.grown none

/-- A new run begins with empty tables. -/
theorem Ledger.boundary {effect : Effect} {earlier : List Effect}
    (isBoundary : effect.boundary = true) (trace : s'.trace = effect :: earlier)
    (entries : s'.connectTokenEntries = connectTokenEntriesReset)
    (manager : s'.encryptionManager = .reset) (once : InstallsOnce s'.trace) : Ledger env s' := by
  have unusable : ∀ e, ¬ Usable (s'.encryptionManager.mapping e).address := by
    intro e usable
    rw [manager] at usable
    exact absurd rfl (Address.Equal.type_ne_none usable)
  have empty : thisRun s'.trace = [] := by rw [trace, thisRun_boundary isBoundary]
  refine ⟨.of_reset entries manager, fun i address e sendKey receiveKey member => ?_,
    fun e _ usable => absurd usable (unusable e), fun e usable => absurd usable (unusable e), once⟩
  rw [empty] at member
  cases member

/-! ### Consulting the history -/

section Requests

variable {source : Address} {request : ConnectionRequest} {token : ConnectTokenPrivate}
  {reading : UInt64}

/-- The token of a request that was just read has not been seen expired. -/
theorem Asking.not_past (asking : Asking s source request token) (fresh : FreshRequests s.trace)
    {request' : ConnectionRequest}
    (same : request.connectTokenExpireTimestamp = request'.connectTokenExpireTimestamp) :
    ¬ Past s request' := by
  rintro ⟨now, member, late⟩
  obtain ⟨reading, call, earlier, head⟩ := asking.head
  rw [head] at fresh member
  have before : .clock now ∈ thisRun earlier := by
    rw [thisRun_cons rfl] at member
    exact (List.mem_cons.mp member).resolve_left nofun
  have early := fresh.1 request rfl now (mem_clockReadings.mpr before)
  rw [same] at early
  exact absurd early (UInt64.not_lt.mpr late)

/-- A new entry, over a free one or over one whose token has expired. -/
theorem Ledger.added (inv : Ledger env s) {index : Nat}
    (absent : ∀ k < maxConnectTokenEntries, (s.connectTokenEntries k).state ≠ .free →
      (s.connectTokenEntries k).mac ≠ requestMac request)
    (reusable : (s.connectTokenEntries index).state = .free ∨
      (s.connectTokenEntries index).expireTimestamp ≤ reading)
    (presented : Presented s source request token) :
    Ledger env { s with
      connectTokenEntries := Function.update s.connectTokenEntries index
        ⟨.pending, s.time, request.connectTokenExpireTimestamp, requestMac request, source⟩
      trace := .clock reading :: s.trace } := by
  have grown : thisRun s.trace ⊆ thisRun (.clock reading :: s.trace) :=
    fun _ => List.mem_cons_of_mem _
  refine ⟨inv.toLinked.added absent reusable presented,
    fun i address e sendKey receiveKey installed => ?_, inv.together,
    fun e usable i address e' receiveKey installed => ?_, ⟨nofun, inv.once⟩⟩
  · have old := (List.mem_cons.mp installed).resolve_left nofun
    obtain ⟨source', request', token', presented', isKey, rest⟩ := inv.consumed _ _ _ _ _ old
    refine ⟨source', request', token', presented'.grown ⟨rfl, rfl⟩ grown, isKey, ?_⟩
    rcases rest with ⟨k, small, state, held⟩ | gone
    · by_cases here : k = index
      · subst here
        exact .inr (past_of_reusable reusable held rfl)
      · refine .inl ⟨k, small, ?_⟩
        simp only [Function.update_of_ne here]
        exact ⟨state, held⟩
    · exact .inr (gone.grown grown)
  · exact inv.spent e usable _ _ _ _ ((List.mem_cons.mp installed).resolve_left nofun)

/-- **Consulting the history** keeps it in order. -/
theorem Ledger.ask (inv : Ledger env s) (asking : Asking s source request token) :
    Ledger env (noteRequest s source request reading) := by
  rcases noteRequest_cases s source request reading with same | ⟨index, absent, reusable, same⟩
  · rw [same]
    exact inv.grown [.clock reading] rfl (by simp) (by simp [Effect.boundary]) ⟨rfl, rfl⟩ rfl
      (fun _ _ => ⟨rfl, rfl, rfl, rfl⟩) fun _ _ => ⟨id, fun _ => id⟩
  · rw [same]
    exact inv.added absent reusable asking.presented

/-- Writing one mapping, with keys that were not installed and that no mapping of another address
holds. -/
theorem Ledger.write (inv : Ledger env s) {e index : Nat} {mapping : EncryptionMapping}
    {manager : EncryptionManager}
    (writes : manager.mapping = Function.update s.encryptionManager.mapping e mapping)
    (presented : Presented s source request token)
    (address : Usable mapping.address → source.Equal mapping.address = true)
    (sendKey : mapping.sendKey = token.serverToClientKey)
    (receiveKey : mapping.receiveKey = token.clientToServerKey)
    (isIndex : mapping.connectTokenEntryIndex = some index) (small : index < maxConnectTokenEntries)
    (held : Holds (s.connectTokenEntries index) request)
    (creator : Usable mapping.address →
      (s.connectTokenEntries index).address.Equal mapping.address = true)
    (unused : ∀ i address e' receiveKey',
      .installed i address e' token.serverToClientKey receiveKey' ∉ thisRun s.trace)
    (alone : Usable mapping.address → ∀ e', Usable (s.encryptionManager.mapping e').address →
      (s.encryptionManager.mapping e').sendKey = token.serverToClientKey →
      (s.encryptionManager.mapping e').address.Equal mapping.address = true) :
    Ledger env { s with encryptionManager := manager } := by
  have here : manager.mapping e = mapping := by rw [writes, Function.update_self]
  have others : ∀ j, j ≠ e → manager.mapping j = s.encryptionManager.mapping j := by
    intro j other
    rw [writes, Function.update_of_ne other]
  refine ⟨inv.toLinked.write writes presented address sendKey receiveKey isIndex small held creator,
    fun i address' e' sendKey' receiveKey' installed => ?_, fun j k usableJ usableK same => ?_,
    fun j usable i address' e' receiveKey' installed => ?_, inv.once⟩
  · obtain ⟨source', request', token', presented', rest⟩ := inv.consumed _ _ _ _ _ installed
    exact ⟨source', request', token', presented'.grown ⟨rfl, rfl⟩ fun _ => id, rest⟩
  · simp only at usableJ usableK same ⊢
    by_cases isJ : j = e <;> by_cases isK : k = e
    · rw [isJ] at usableJ ⊢
      rw [isK]
      exact usableJ
    · subst isJ
      rw [here] at usableJ same ⊢
      rw [others k isK] at usableK same ⊢
      exact Address.Equal.symm (alone usableJ k usableK (same.symm.trans sendKey))
    · subst isK
      rw [here] at usableK same ⊢
      rw [others j isJ] at usableJ same ⊢
      exact alone usableK j usableJ (same.trans sendKey)
    · rw [others j isJ] at usableJ same ⊢
      rw [others k isK] at usableK same ⊢
      exact inv.together j k usableJ usableK same
  · simp only at usable installed ⊢
    by_cases isE : j = e
    · subst isE
      rw [here, sendKey] at installed
      exact absurd installed (unused _ _ _ _)
    · rw [others j isE] at usable installed ⊢
      exact inv.spent j usable _ _ _ _ installed

/-- **Admitting a request.** Its token was not installed before: its entry would be consumed, or
the token seen expired. -/
theorem Ledger.grant {index e : Nat} {mapping : EncryptionMapping} {manager : EncryptionManager}
    (inv : Ledger env s) (distinct : DistinctTokens issued) (only : OnlyIssued issued s.trace)
    (fresh : FreshRequests s.trace) (provenance : Provenance config s)
    (asking : Asking s source request token)
    (admits : (consult s source request reading).2 = .entry index)
    (writes : manager.mapping = Function.update s.encryptionManager.mapping e mapping)
    (added : EncryptionManager.Added mapping token.serverToClientKey token.clientToServerKey s.time
      (mappingExpireTime env s token) token.timeoutSeconds index)
    (address : mapping.address = source ∨ mapping.address.Equal source = true) :
    Ledger env { noteRequest s source request reading with encryptionManager := manager } := by
  obtain ⟨small, held, creator, before⟩ :=
    admitted_entry inv.toLinked distinct only provenance asking admits
  have equal : Usable mapping.address → source.Equal mapping.address = true :=
    mapping_address address
  have grown : thisRun s.trace ⊆ thisRun (noteRequest s source request reading).trace :=
    fun _ => List.mem_cons_of_mem _
  refine (inv.ask asking).write writes (asking.presented.grown ⟨rfl, rfl⟩ grown) equal added.sendKey
    added.receiveKey added.connectTokenEntryIndex small held (fun usable => ?_)
    (fun i address' e' receiveKey' installed => ?_) fun usable e' usable' same => ?_
  · rcases creator with isSource | same
    · rw [isSource]
      exact equal usable
    · exact Address.Equal.trans same (equal usable)
  · have old := (List.mem_cons.mp installed).resolve_left nofun
    obtain ⟨source', request', token', presented', isKey, rest⟩ := inv.consumed _ _ _ _ _ old
    obtain ⟨mac, expire⟩ := same_of_sendKey provenance distinct only asking.presented presented'
      isKey.symm
    rcases rest with ⟨k, smallK, state, heldK⟩ | past
    · have pending := (before k smallK request' heldK mac.symm).1
      rw [state] at pending
      cases pending
    · exact asking.not_past fresh expire past
  · obtain ⟨source', request', token', index', origin, backed⟩ := inv.mappings e' usable'
    obtain ⟨mac, expire⟩ := same_of_sendKey provenance distinct only asking.presented
      origin.presented (same.symm.trans origin.sendKey)
    rcases backed.entry with ⟨heldK, address'⟩ | past
    · have fromSource := (before index' backed.small request' heldK mac.symm).2
      exact Address.Equal.trans (Address.Equal.symm address')
        (Address.Equal.trans fromSource (equal usable))
    · exact absurd past (asking.not_past fresh expire)

end Requests

/-! ### Installing a client -/

section Install

variable {source : Address} {e i : Nat} {clientID : UInt64} {timeout : Int32} {userData : UserData}

/-- **Installing a client.** The keys were not installed before, since the mapping is live and has
no client; any other mapping with these keys has the same address and has expired. -/
theorem Ledger.install (inv : Ledger env s) (binding : Binding env s)
    (found : s.encryptionManager.lookup env source s.time = some e)
    (free : (s.encryptionManager.mapping e).clientIndex = none) :
    Ledger env (installClient s i source clientID e timeout userData) := by
  obtain ⟨-, equal, live, -⟩ := EncryptionManager.lookup_eq_some.mp found
  have usable := usable_of_equal equal
  obtain ⟨source₁, request₁, token₁, index, origin, backed⟩ := inv.mappings e usable
  have entries := installClient_entries s i source clientID timeout userData backed.isIndex
  have trace := installClient_trace s i source clientID e timeout userData
  have manager := installClient_manager s i source clientID e timeout userData
  have addresses : (installClient s i source clientID e timeout userData).address = s.address ∧
      (installClient s i source clientID e timeout userData).address2 = s.address2 := ⟨rfl, rfl⟩
  have time : (installClient s i source clientID e timeout userData).time = s.time := rfl
  have linked : Linked (installClient s i source clientID e timeout userData) :=
    inv.toLinked.install found
  have kept := installClient_keeps s i source clientID e timeout userData
  dsimp only at kept
  generalize installClient s i source clientID e timeout userData = s' at *
  have grown : thisRun s.trace ⊆ thisRun s'.trace := by
    rw [trace]
    exact fun _ => List.mem_cons_of_mem _
  have keeps := consume_entry backed.used
  have here : s'.encryptionManager.mapping e =
      { s.encryptionManager.mapping e with expireTime := -1, clientIndex := some i } := by
    rw [manager]
    exact Function.update_self _ _ _
  have others : ∀ j, j ≠ e → s'.encryptionManager.mapping j = s.encryptionManager.mapping j := by
    intro j other
    rw [manager]
    exact Function.update_of_ne other _ _
  refine ⟨linked, fun i' address e' sendKey receiveKey installed => ?_,
    fun j k usableJ usableK same => ?_, fun j usableJ i' address e' receiveKey installed => ?_, ?_⟩
  · rw [trace] at installed
    rcases List.mem_cons.mp installed with isNew | old
    · cases isNew
      refine ⟨source₁, request₁, token₁, origin.presented.grown addresses grown,
        origin.sendKey.symm, ?_⟩
      rcases backed.entry with ⟨held, -⟩ | past
      · refine .inl ⟨index, backed.small, ?_, ?_⟩
        · rw [entries, connectTokenEntriesConsume_self _ backed.small]
        · rw [entries]
          exact (keeps index).2.2.2.2 request₁ held
      · exact .inr (past.grown grown)
    · obtain ⟨source', request, token, presented, isKey, rest⟩ := inv.consumed _ _ _ _ _ old
      refine ⟨source', request, token, presented.grown addresses grown, isKey, ?_⟩
      rcases rest with ⟨k, small, state, held⟩ | past
      · rw [entries]
        exact .inl ⟨k, small, (keeps k).2.2.2.1 state, (keeps k).2.2.2.2 request held⟩
      · exact .inr (past.grown grown)
  · rw [(kept j).1] at usableJ ⊢
    rw [(kept k).1] at usableK ⊢
    rw [(kept j).2.1, (kept k).2.1] at same
    exact inv.together j k usableJ usableK same
  · by_cases isE : j = e
    · subst isE
      rw [here]
      exact .inl nofun
    · rw [others j isE] at usableJ installed ⊢
      rw [trace] at installed
      rw [time]
      rcases List.mem_cons.mp installed with isNew | old
      · -- both hold the keys just installed, so the later one of them has expired
        have sameKey : (s.encryptionManager.mapping j).sendKey =
            (s.encryptionManager.mapping e).sendKey := by
          injection isNew
        have sameAddress := inv.together j e usableJ usable sameKey
        rcases Nat.lt_or_gt_of_ne isE with before | after
        · have expired := binding.table.order j e before sameAddress
          rw [live] at expired
          cases expired
        · exact .inr (binding.table.order e j after (Address.Equal.symm sameAddress))
      · exact inv.spent j usableJ _ _ _ _ old
  · rw [trace]
    refine ⟨fun i' address e' sendKey receiveKey isInstalled => ?_, inv.once⟩
    cases isInstalled
    intro i₁ address₁ e₁ receiveKey₁ before
    rcases inv.spent e usable _ _ _ _ before with bound | expired
    · exact bound free
    · rw [live] at expired
      cases expired

end Install

/-! ### Runs -/

theorem Ledger.step (inv : Ledger env s) (binding : Binding env s)
    (distinct : DistinctTokens issued) (provenance : Provenance config s)
    (step : TokenStep env config s s') (only : OnlyIssued issued s'.trace)
    (fresh : FreshRequests s'.trace) : Ledger env s' := by
  cases step with
  | quiet quiet =>
    obtain ⟨new, trace, noToken⟩ := quiet.trace
    exact inv.grown new trace
      (fun i address e sendKey receiveKey member => List.any_eq_false.mp noToken _ member rfl)
      (Quiet.inside noToken) quiet.addresses quiet.entries quiet.kept quiet.settled
  | openRequest source reading data request call =>
    exact inv.grown [.requested source request reading call, .opened .connectToken call] rfl
      (by simp) (by simp [Effect.boundary]) ⟨rfl, rfl⟩ rfl (fun _ _ => ⟨rfl, rfl, rfl, rfl⟩)
      fun _ _ => ⟨id, fun _ => id⟩
  | ask source request token reading asking => exact inv.ask asking
  | grant source request token reading index e mapping manager asking admits writes added address =>
    exact inv.grant distinct only fresh.2
      provenance asking admits writes added address
  | install source e i clientID userData found free => exact inv.install binding found free
  | boundary effect new isBoundary noToken trace entries manager =>
    refine .boundary isBoundary trace entries manager ?_
    rw [trace]
    refine ⟨fun i address e sendKey receiveKey isInstalled => ?_, inv.once.grown
      fun i address e sendKey receiveKey member => List.any_eq_false.mp noToken _ member rfl⟩
    rw [isInstalled] at isBoundary
    cases isBoundary

theorem Ledger.new (address address2 : Address) (time : ℚ) :
    Ledger env (Server.new address address2 time) := by
  have unusable : ∀ e,
      ¬ Usable ((Server.new address address2 time).encryptionManager.mapping e).address :=
    fun e usable => absurd rfl (Address.Equal.type_ne_none usable)
  exact ⟨.of_reset rfl rfl, nofun, fun e _ usable => absurd usable (unusable e),
    fun e usable => absurd usable (unusable e), trivial⟩

/-- What is assumed of tokens and clock readings along a run. -/
structure TokensFresh (issued : AeadCall → Prop) (trace : List Effect) : Prop where
  only : OnlyIssued issued trace
  fresh : FreshRequests trace

theorem TokensFresh.of_suffix {before after : List Effect} (suffix : before <:+ after)
    (met : TokensFresh issued after) : TokensFresh issued before :=
  ⟨met.only.of_suffix suffix, met.fresh.of_suffix suffix⟩

theorem Run.ledger {calls : List Call} (quiet : config.NonReentrant)
    (distinct : DistinctTokens issued) (run : Run env config calls s)
    (met : TokensFresh issued s.trace) : Ledger env s :=
  (Run.along (TokensFresh issued) (fun s => Provenance config s ∧ Ledger env s) quiet
    (fun _ _ suffix => .of_suffix suffix)
    (fun address address2 time => ⟨.new config address address2 time, .new address address2 time⟩)
    (fun _ _ binding atom met ⟨provenance, ledger⟩ =>
      have step := atom.tokenStep binding
      ⟨provenance.step step, ledger.step binding distinct provenance step met.only met.fresh⟩)
    run met).2

/-- **No token is installed twice in a run** in which no request is accepted after its token was
seen expired: at every point of the trace, the run so far has installed the keys of each token at
most once. -/
theorem connect_token_single_use {calls : List Call} (quiet : config.NonReentrant)
    (distinct : DistinctTokens issued) (run : Run env config calls s)
    (only : OnlyIssued issued s.trace) (fresh : FreshRequests s.trace) (token : ConnectTokenPrivate) :
    ∀ earlier, earlier <:+ s.trace → (installations (thisRun earlier)).count
      (token.serverToClientKey, token.clientToServerKey) ≤ 1 := by
  intro earlier suffix
  have once : InstallsOnce s.trace := (run.ledger quiet distinct ⟨only, fresh⟩).once
  exact InstallsOnce.count_le (once.of_suffix suffix) _ _

end Server

/-! ### A token that expires within a batch -/

namespace Sample

/-- The two tokens, the first one with an early expiry. -/
def issued : List AeadCall := [sealToken first 1040, sealToken second 1100]

theorem issued_distinct : DistinctTokens (· ∈ issued) :=
  .of_nodup (by decide +kernel) (by decide +kernel)

/-- A client connects and is disconnected. A batch is then read at second 1039, one second before
its token expires, and processed at second 1040: the request of a second client takes over the entry
of the first token, and the first client connects once more. -/
def reuseInBatch : List Server.Call :=
  connectFirst ++
    [.disconnectClient 0,
      .update 1 1039 [⟨secondAddress, request second 1100, 1040⟩,
        ⟨firstAddress, request first 1040, 1040⟩,
        ⟨firstAddress, response first first 2 1, 1040⟩]]

end Sample

namespace Server

/-- A run with fresh requests in which a client connects. -/
theorem connect_token_single_use_connected :
    ∃ calls s, Run samplePlatform Sample.config calls s ∧ FreshRequests s.trace ∧
      (installations (thisRun s.trace)).count
        (Sample.first.serverToClientKey, Sample.first.clientToServerKey) = 1 ∧
      ∀ earlier, earlier <:+ s.trace → (installations (thisRun earlier)).count
        (Sample.first.serverToClientKey, Sample.first.clientToServerKey) ≤ 1 := by
  have connects : (execute samplePlatform Sample.config Sample.server Sample.connectFirst).map
      (fun s => decide (OnlyIssued (· ∈ Sample.issued) s.trace ∧ FreshRequests s.trace ∧
        (installations (thisRun s.trace)).count
          (Sample.first.serverToClientKey, Sample.first.clientToServerKey) = 1)) = some true := by
    decide +kernel
  obtain ⟨s, done, facts⟩ := Option.map_eq_some_iff.mp connects
  obtain ⟨only, fresh, installed⟩ := of_decide_eq_true facts
  have run := Sample.server_run.execute done
  exact ⟨_, s, run, fresh, installed, connect_token_single_use Sample.config_nonReentrant
    Sample.issued_distinct run only fresh Sample.first⟩

/-- **A token is installed twice** in one run, with a clock that never goes back. -/
theorem connect_token_reused_in_batch :
    ∃ calls s, Run samplePlatform Sample.config calls s ∧ DistinctTokens (· ∈ Sample.issued) ∧
      OnlyIssued (· ∈ Sample.issued) s.trace ∧ ClockForward s.trace ∧
      (installations (thisRun s.trace)).count
        (Sample.first.serverToClientKey, Sample.first.clientToServerKey) = 2 := by
  have reuses : (execute samplePlatform Sample.config Sample.server Sample.reuseInBatch).map
      (fun s => decide (OnlyIssued (· ∈ Sample.issued) s.trace ∧ ClockForward s.trace ∧
        (installations (thisRun s.trace)).count
          (Sample.first.serverToClientKey, Sample.first.clientToServerKey) = 2)) = some true := by
    decide +kernel
  obtain ⟨s, done, facts⟩ := Option.map_eq_some_iff.mp reuses
  obtain ⟨only, forward, twice⟩ := of_decide_eq_true facts
  exact ⟨_, s, Sample.server_run.execute done, Sample.issued_distinct, only, forward, twice⟩

end Server

end Netcode
