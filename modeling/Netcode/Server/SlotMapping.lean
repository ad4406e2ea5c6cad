/-
**A connected client and its mapping, over whole runs.**

`Binding` ties slots to mappings in every state. Here is what follows for the operations: the error
path of `sendClientPacket` is never taken, the mapping arrays are never indexed with `-1`, a mapping
stays with its client until the client is disconnected, and a disconnection removes that mapping and
no other.

* `Atom.keepsHold` — one atom: a connected client keeps its mapping, or is released;
* `Atom.cameFrom` — one atom, looking back: a client was connected before, or is installed now;
* `slot_mapping_correspondence` — **the result**, in every state of every run, also in the middle of
  a call.
-/

import Netcode.Server.Chain
import Netcode.Model.Sample

namespace Netcode.Server

open Relation

variable {env : Platform} {config : ServerConfig} {s s' : Server} {i e : Nat}

/-! ### The error path -/

/-- No atom takes the error path of `sendClientPacket`. -/
theorem Atom.outOfDate (atom : Atom env config s s') (never : ∀ j, .outOfDate j ∉ s.trace) :
    ∀ j, .outOfDate j ∉ s'.trace := by
  intro j
  cases atom with
  | arrive => simpa [record] using never j
  | micro micro =>
    cases micro with
    | openPacket source reading data clientIndex e outcome call running head located reads isOpened
        notRequest =>
      obtain ⟨clients, same, -⟩ := applyReading_eq s source reading clientIndex outcome isOpened
        notRequest
      rw [same]
      simpa using never j
    | change i slot effects change =>
      have unaffected : .outOfDate j ∉ effects := by
        cases change with
        | push => split_ifs <;> simp
        | deliver => cases (s.clients i).packetQueue.pop.2.1 <;> simp
        | _ => simp
      simpa [unaffected] using never j
    | tick | refresh | connectLoopback | disconnectLoopback => exact never j
    | clock | openRequest | respond => simpa [record] using never j
    | deny => simpa [sendGlobalPacket] using never j
    | ask | grant => simpa [noteRequest] using never j
    | issue => simpa [sendChallenge, sendGlobalPacket] using never j
    | install => simpa [installClient] using never j
    | send p i e note connected network mapped kind =>
      cases kind <;> simpa [writeToClient] using never j
    | release => simpa [releaseClient, resetClientSlot, setClient] using never j
    | reset => simpa [resetServer] using never j
    | start => simpa [startServer] using never j

/-! ### A client keeps its mapping -/

/-- Slot `i` is connected through mapping `e` after a step as before it, with the same keys. -/
structure SameHold (s s' : Server) (i e : Nat) : Prop where
  session : SameSession (s.clients i) (s'.clients i)
  address : (s'.encryptionManager.mapping e).address = (s.encryptionManager.mapping e).address
  sendKey : (s'.encryptionManager.mapping e).sendKey = (s.encryptionManager.mapping e).sendKey
  receiveKey :
    (s'.encryptionManager.mapping e).receiveKey = (s.encryptionManager.mapping e).receiveKey

theorem SameHold.of_mapping (session : SameSession (s.clients i) (s'.clients i))
    (mapping : s'.encryptionManager.mapping e = s.encryptionManager.mapping e) :
    SameHold s s' i e :=
  ⟨session, by rw [mapping], by rw [mapping], by rw [mapping]⟩

theorem SameHold.of_access (session : SameSession (s.clients i) (s'.clients i)) {p : Nat} {time : ℚ}
    (manager : s'.encryptionManager = s.encryptionManager.access p time) : SameHold s s' i e := by
  obtain ⟨lastAccessTime, same⟩ := access_mapping s.encryptionManager p e time
  rw [← manager] at same
  exact ⟨session, by rw [same], by rw [same], by rw [same]⟩

/-- **A connected client keeps its mapping, or is released.** -/
theorem Atom.keepsHold (inv : Binding env s) (atom : Atom env config s s')
    (connected : (s.clients i).connected = true) (network : (s.clients i).loopback = false)
    (mapped : (s.clients i).encryptionIndex = some e) :
    SameHold s s' i e ∨
      s'.trace = .released i e :: s.trace ∧ (s'.clients i).connected = false := by
  have bound := inv.boundAt connected network mapped
  have held : (s.encryptionManager.mapping e).clientIndex ≠ none := by
    rw [bound.client]
    exact nofun
  cases atom with
  | arrive => exact .inl (.of_mapping (.refl _) rfl)
  | micro micro =>
    cases micro with
    | tick | clock | openRequest | respond | deny | ask | issue =>
      exact .inl (.of_mapping (.refl _) rfl)
    | refresh => exact .inl (.of_access (.refl _) rfl)
    | openPacket source reading data clientIndex e' outcome call running head located reads isOpened
        notRequest =>
      obtain ⟨clients, same, slots⟩ := applyReading_eq s source reading clientIndex outcome isOpened
        notRequest
      rw [same]
      exact .inl (.of_mapping (.of_window (slots i)) rfl)
    | grant source request token reading index manager asking admits room added =>
      obtain ⟨w, mapping, writes, -, free, -, -⟩ := inv.added asking.strangerAddress added
      have other : e ≠ w := fun same => held (same ▸ free)
      refine .inl (.of_mapping (.refl _) ?_)
      show manager.mapping e = _
      rw [writes, Function.update_of_ne other]
    | install source w k challenge sequence call responding strangerAddress strangerID found vacant =>
      have free := inv.stranger strangerAddress (EncryptionManager.lookup_eq_some.mp found).2.1
      have otherMapping : e ≠ w := fun same => held (same ▸ free)
      have otherSlot : i ≠ k := by
        rintro rfl
        rw [(findFreeClientIndex_eq_some vacant).2] at connected
        cases connected
      refine .inl (.of_mapping ?_ ?_)
      · simp only [installClient, Function.update_of_ne otherSlot]
        exact .refl _
      · rw [installClient_manager]
        exact Function.update_of_ne otherMapping _ _
    | send p k w =>
      exact .inl (.of_access (writeToClient_session env config
        { s with encryptionManager := s.encryptionManager.access w s.time } p k
        (s.encryptionManager.mapping w).sendKey i) rfl)
    | release k w connectedK networkK mappedK =>
      by_cases same : k = i
      · subst same
        rw [mapped] at mappedK
        cases mappedK
        exact .inr ⟨rfl, by rw [releaseClient_slot]; rfl⟩
      · have boundK := inv.boundAt connectedK networkK mappedK
        have other : e ≠ w := by
          rintro rfl
          exact same (Option.some_inj.mp (boundK.client.symm.trans bound.client))
        obtain ⟨-, -, others⟩ := inv.table.release (by rw [boundK.client]; exact nofun)
          boundK.address
        refine .inl (.of_mapping ?_ ?_)
        · rw [releaseClient_others s k w (Ne.symm same)]
          exact .refl _
        · rcases others e other with unchanged | ⟨-, -, none⟩
          · exact unchanged
          · exact absurd none held
    | change k slot effects change =>
      exact .inl (.of_mapping (SameSession.update change.sameSession i) rfl)
    | connectLoopback k clientID userData small free =>
      have other : i ≠ k := by
        rintro rfl
        rw [free] at connected
        cases connected
      refine .inl (.of_mapping ?_ rfl)
      simp only [setClient, Function.update_of_ne other]
      exact .refl _
    | disconnectLoopback k connectedK loopbackK =>
      have other : i ≠ k := by
        rintro rfl
        rw [loopbackK] at network
        cases network
      refine .inl (.of_mapping ?_ rfl)
      simp only [resetClientSlot, setClient, Function.update_of_ne other]
      exact .refl _
    | reset gone =>
      rw [gone i (inv.inUse connected)] at connected
      cases connected
    | start maxClients challengeKey reading idle =>
      rw [inv.running connected] at idle
      cases idle

/-- A client is installed in slot `i`, with mapping `e`. -/
structure Installing (env : Platform) (s s' : Server) (i e : Nat) (source : Address)
    (challenge : ChallengeToken) (challengeTokenSequence : UInt64) (call : AeadCall) : Prop where
  responding : Responding env s source e challenge challengeTokenSequence call
  strangerAddress : s.findClientIndexByAddress source = none
  strangerID : s.findClientIndexByID challenge.clientID = none
  found : s.encryptionManager.lookup env source s.time = some e
  free : s.findFreeClientIndex = some i
  after : s' = installClient s i source challenge.clientID e (s.encryptionManager.mapping e).timeout
    challenge.userData

/-- **Where a connected client comes from**: it was there before, with the same mapping and keys, or
it is installed by this atom. -/
theorem Atom.cameFrom (inv : Binding env s) (atom : Atom env config s s')
    (connected : (s'.clients i).connected = true) (network : (s'.clients i).loopback = false) :
    ((s.clients i).connected = true ∧ (s.clients i).loopback = false ∧
        ∃ e, (s.clients i).encryptionIndex = some e ∧ SameHold s s' i e) ∨
      ∃ e source challenge challengeTokenSequence call,
        Installing env s s' i e source challenge challengeTokenSequence call := by
  by_cases before : (s.clients i).connected = true ∧ (s.clients i).loopback = false
  · obtain ⟨e, bound⟩ := inv.bound i before.1 before.2
    rcases atom.keepsHold inv before.1 before.2 bound.index with held | ⟨-, gone⟩
    · exact .inl ⟨before.1, before.2, e, bound.index, held⟩
    · rw [gone] at connected
      cases connected
  -- no other atom makes a client of the network out of a slot that has none
  have notSame : ¬ SameSession (s.clients i) (s'.clients i) := fun same =>
    before ⟨same.connected.symm.trans connected, same.loopback.symm.trans network⟩
  cases atom with
  | arrive => exact absurd (.refl _) notSame
  | micro micro =>
    cases micro with
    | tick | clock | refresh | openRequest | respond | deny | ask | grant | issue | reset =>
      exact absurd (.refl _) notSame
    | openPacket source reading data clientIndex e' outcome call running head located reads isOpened
        notRequest =>
      obtain ⟨clients, same, slots⟩ := applyReading_eq s source reading clientIndex outcome isOpened
        notRequest
      rw [same] at notSame
      exact absurd (.of_window (slots i)) notSame
    | install source e k challenge sequence call responding strangerAddress strangerID found vacant =>
      by_cases here : i = k
      · subst here
        exact .inr ⟨e, source, challenge, sequence, call, responding, strangerAddress, strangerID,
          found, vacant, rfl⟩
      · refine absurd ?_ notSame
        simp only [installClient, Function.update_of_ne here]
        exact .refl _
    | send p k w =>
      exact absurd (writeToClient_session env config
        { s with encryptionManager := s.encryptionManager.access w s.time } p k
        (s.encryptionManager.mapping w).sendKey i) notSame
    | release k w =>
      by_cases here : i = k
      · subst here
        rw [releaseClient_slot] at connected
        cases connected
      · rw [releaseClient_others s k w here] at notSame
        exact absurd (.refl _) notSame
    | change k slot effects change => exact absurd (SameSession.update change.sameSession i) notSame
    | connectLoopback k clientID userData =>
      by_cases here : i = k
      · subst here
        simp [setClient, loopbackSlot] at network
      · simp only [setClient, Function.update_of_ne here] at notSame
        exact absurd (.refl _) notSame
    | disconnectLoopback k =>
      by_cases here : i = k
      · subst here
        simp [resetClientSlot, setClient, clearedSlot] at connected
      · simp only [resetClientSlot, setClient, Function.update_of_ne here] at notSame
        exact absurd (.refl _) notSame
    | start => exact absurd ⟨rfl, rfl, rfl, rfl, rfl, rfl⟩ notSame

/-- Along a chain of atoms that does not release the slot. -/
theorem atoms_keepHold (inv : Binding env s) (chain : ReflTransGen (Atom env config) s s')
    (connected : (s.clients i).connected = true) (network : (s.clients i).loopback = false)
    (mapped : (s.clients i).encryptionIndex = some e) :
    SameHold s s' i e ∨
      ∃ new earlier, s'.trace = new ++ .released i e :: earlier ∧ s.trace <:+ earlier := by
  induction chain with
  | refl => exact .inl (.of_mapping (.refl _) rfl)
  | @tail t u chain last ih =>
    rcases ih with hold | ⟨new, earlier, isTrace, before⟩
    · rcases last.keepsHold (inv.atoms chain) (hold.session.connected.trans connected)
        (hold.session.loopback.trans network) (hold.session.encryptionIndex.trans mapped) with
        next | released
      · exact .inl ⟨⟨next.session.connected.trans hold.session.connected,
          next.session.loopback.trans hold.session.loopback,
          next.session.encryptionIndex.trans hold.session.encryptionIndex,
          next.session.address.trans hold.session.address,
          next.session.clientID.trans hold.session.clientID,
          next.session.userData.trans hold.session.userData⟩, next.address.trans hold.address,
          next.sendKey.trans hold.sendKey, next.receiveKey.trans hold.receiveKey⟩
      · exact .inr ⟨[], t.trace, released.1,
          Trace.chain_grows (Atom env config) Server.trace (fun _ _ => Atom.grows) chain⟩
    · obtain ⟨newer, grown⟩ := last.grows
      refine .inr ⟨newer ++ new, earlier, ?_, before⟩
      rw [← grown, isTrace, List.append_assoc]

/-! ### The result -/

/-- **Slots and mappings correspond.** -/
structure Corresponds (s : Server) : Prop where
  /-- A connected client on the network has a mapping of its own, in use and without expiry. -/
  slot : ∀ i, (s.clients i).connected = true → (s.clients i).loopback = false →
    ∃ e, Bound s i e ∧ ∀ j, (s.clients j).connected = true →
      (s.clients j).encryptionIndex = some e → j = i
  /-- A mapping with a client is the mapping of such a slot. -/
  mapping : ∀ e i, (s.encryptionManager.mapping e).clientIndex = some i →
    (s.clients i).connected = true ∧ (s.clients i).loopback = false ∧ Bound s i e

theorem Binding.corresponds (inv : Binding env s) : Corresponds s := by
  refine ⟨fun i connected network => ?_, fun e i held => ?_⟩
  · obtain ⟨e, bound⟩ := inv.bound i connected network
    refine ⟨e, bound, fun j connectedJ mappedJ => ?_⟩
    have networkJ : (s.clients j).loopback = false := by
      by_contra loopback
      rw [(inv.inLoopback j (by simpa using loopback)).2] at mappedJ
      cases mappedJ
    have boundJ := inv.boundAt connectedJ networkJ mappedJ
    exact Option.some_inj.mp (boundJ.client.symm.trans bound.client)
  · obtain ⟨connected, network, mapped⟩ := inv.owner e i held
    exact ⟨connected, network, inv.boundAt connected network mapped⟩

/-- **Slots and mappings correspond in every state of a run**, also between the atoms of its next
call. So no call panics but for a missing loopback callback, `sendClientPacket` never finds its
mapping out of date, a client keeps its mapping with its address and keys until it is released, and
a disconnection clears exactly that mapping. -/
theorem slot_mapping_correspondence {calls : List Call} (quiet : config.NonReentrant)
    (run : Run env config calls s) :
    (∀ t, ReflTransGen (Atom env config) s t → Corresponds t ∧ (∀ j, .outOfDate j ∉ t.trace) ∧
      ∀ i e, (t.clients i).connected = true → (t.clients i).loopback = false →
        (t.clients i).encryptionIndex = some e →
        (∀ p, ∃ u, sendClientPacket env config t p i = some u ∧ .outOfDate i ∉ u.trace) ∧
        (∀ sendPackets reason, ∃ u,
          disconnectClientInternal env config t i sendPackets reason = some u ∧ Cleared env t u e) ∧
        ∀ u, ReflTransGen (Atom env config) t u → SameHold t u i e ∨
          ∃ new earlier, u.trace = new ++ .released i e :: earlier ∧ t.trace <:+ earlier) ∧
    ∀ call, Forward env s call →
      (∃ s', step env config s call = some s' ∧ ReflTransGen (Atom env config) s s') ∨
        NilLoopbackCallback config s call := by
  have inv := run.binding quiet
  have clean : ∀ j, .outOfDate j ∉ s.trace :=
    Run.along (fun _ => True) (fun s => ∀ j, .outOfDate j ∉ s.trace) quiet (fun _ _ _ met => met)
      (fun _ _ _ _ => nofun)
      (fun _ _ _ atom _ never => atom.outOfDate never) run trivial
  refine ⟨fun t chain => ?_, fun call forward => step_atoms quiet inv call forward⟩
  have invT := inv.atoms chain
  have cleanT : ∀ j, .outOfDate j ∉ t.trace := by
    induction chain with
    | refl => exact clean
    | tail before last ih => exact last.outOfDate (ih (inv.atoms before))
  refine ⟨invT.corresponds, cleanT, fun i e connected network mapped => ⟨fun p => ?_, ?_, ?_⟩⟩
  · obtain ⟨e', -, returns⟩ := sendClientPacket_eq config invT connected network p
    exact ⟨_, returns, by simpa [writeToClient] using cleanT i⟩
  · intro sendPackets reason
    obtain ⟨u, returns, -, -, cleared⟩ := disconnectClientInternal_leads quiet invT connected
      network sendPackets reason
    exact ⟨u, returns, cleared e mapped⟩
  · exact fun u rest => atoms_keepHold invT rest connected network mapped

/-- A client that has connected, and its mapping. -/
theorem slot_mapping_correspondence_connected :
    ∃ calls s, Run samplePlatform Sample.config calls s ∧ (s.clients 0).connected = true ∧
      (s.clients 0).encryptionIndex = some 0 ∧ Corresponds s := by
  have connects : (execute samplePlatform Sample.config Sample.server Sample.connectFirst).map
      (fun s => ((s.clients 0).connected, (s.clients 0).encryptionIndex)) =
        some (true, some 0) := by
    decide +kernel
  obtain ⟨s, done, slot⟩ := Option.map_eq_some_iff.mp connects
  have run := Sample.server_run.execute done
  exact ⟨_, s, run, congrArg Prod.fst slot, congrArg Prod.snd slot,
    ((slot_mapping_correspondence Sample.config_nonReentrant run).1 s .refl).1⟩

end Netcode.Server
