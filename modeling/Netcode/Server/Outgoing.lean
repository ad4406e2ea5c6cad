/-
**What the server sends to a client.**

`SendPacket` takes the sequence number of the slot, which counts from the installation of its client.
So the number tells the payloads of a session apart, and if a send key is installed once, it tells
apart all payloads ever sent under that key.

* `sendsUnder` — the payloads given to `SendPacket` for a slot while its client had a send key;
* `Run.outgoing` — **their numbers are different** as long as the key is installed once and the
  numbers do not run out;
* `InstallsOnce.installedOnce` — a key that is installed once per run is installed once if there is one
  run.
-/

import Netcode.Server.Nonces
import Netcode.Server.Sessions

namespace Netcode

open Trace

/-! ### Sends in the trace -/

/-- The send key of the client last installed in slot `i`. -/
def slotKey (i : Nat) (trace : List Effect) : Option Key :=
  (sessionStart i trace).head?.bind fun
    | .installed _ _ _ sendKey _ => some sendKey
    | _ => none

/-- The payload that was given to `SendPacket`, with its slot and its number. -/
def Effect.submits : Effect → Option (Nat × Bytes × UInt64)
  | .submitted i payload n => some (i, payload, n)
  | _ => none

/-- It was for slot `i`, and its client had the send key. -/
def Effect.sendUnder (key : Key) (i : Nat) (effect : Effect) (earlier : List Effect) :
    List (Bytes × UInt64) :=
  match effect.submits with
  | some (j, payload, n) => if j = i ∧ slotKey i earlier = some key then [(payload, n)] else []
  | none => []

/-- The payloads given to `SendPacket` for slot `i` while its client had the send key, newest
first. -/
def sendsUnder (key : Key) (i : Nat) : List Effect → List (Bytes × UInt64)
  | [] => []
  | effect :: earlier => effect.sendUnder key i earlier ++ sendsUnder key i earlier

section Sends

variable {key : Key} {i : Nat}

theorem sendsUnder_grown {new trace : List Effect} (none : ∀ effect ∈ new, effect.submits = none) :
    sendsUnder key i (new ++ trace) = sendsUnder key i trace := by
  induction new with
  | nil => rfl
  | cons effect rest ih =>
    rw [List.cons_append, sendsUnder, Effect.sendUnder, none effect List.mem_cons_self,
      ih fun other member => none other (List.mem_cons_of_mem _ member)]
    rfl

/-- A slot has a key only from an installation. -/
theorem installed_of_slotKey {trace : List Effect} (isKey : slotKey i trace = some key) :
    ∃ address e receiveKey, .installed i address e key receiveKey ∈ trace := by
  obtain ⟨effect, isHead, isInstalled⟩ := Option.bind_eq_some_iff.mp isKey
  have member := (sessionStart_suffix i trace).subset (List.mem_of_mem_head? isHead)
  have installs := List.head?_dropWhile_not (fun effect : Effect => !effect.installs i) trace
  rw [show (trace.dropWhile fun effect => !effect.installs i).head? = some effect from isHead]
    at installs
  cases effect with
  | installed j address e sendKey receiveKey =>
    cases isInstalled
    have here : j = i := by simpa [Effect.installs] using installs
    subst here
    exact ⟨address, e, receiveKey, member⟩
  | _ => cases isInstalled

/-- Nothing was sent under a key that was not installed. -/
theorem sendsUnder_eq_nil {trace : List Effect}
    (never : ∀ address e receiveKey, .installed i address e key receiveKey ∉ trace) :
    sendsUnder key i trace = [] := by
  induction trace with
  | nil => rfl
  | cons effect earlier ih =>
    have before : ∀ address e receiveKey, .installed i address e key receiveKey ∉ earlier :=
      fun address e receiveKey member => never address e receiveKey (List.mem_cons_of_mem _ member)
    rw [sendsUnder, ih before, List.append_nil, Effect.sendUnder]
    split
    · refine if_neg fun sent => ?_
      obtain ⟨address, e, receiveKey, member⟩ := installed_of_slotKey sent.2
      exact before address e receiveKey member
    · rfl

/-- A payload that was submitted in the session is among those sent under its key. -/
theorem mem_sendsUnder {later earlier : List Effect} {payload : Bytes} {n : UInt64}
    (isKey : slotKey i earlier = some key) :
    (payload, n) ∈ sendsUnder key i (later ++ .submitted i payload n :: earlier) := by
  induction later with
  | nil =>
    rw [List.nil_append, sendsUnder, Effect.sendUnder, Effect.submits]
    dsimp only
    rw [if_pos ⟨rfl, isKey⟩]
    exact List.mem_cons_self
  | cons effect rest ih =>
    rw [List.cons_append, sendsUnder]
    exact List.mem_append_right _ ih

end Sends

/-! ### One installation -/

/-- **The send key is installed at most once.** -/
def InstalledOnce (key : Key) (trace : List Effect) : Prop :=
  Always (fun effect earlier => ∀ i address e receiveKey,
    effect = .installed i address e key receiveKey →
      ∀ i' address' e' receiveKey', .installed i' address' e' key receiveKey' ∉ earlier) trace

/-- So it belongs to one slot. -/
theorem InstalledOnce.slot {key : Key} {trace : List Effect} (once : InstalledOnce key trace)
    {i i' : Nat} {address address' : Address} {e e' : Nat} {receiveKey receiveKey' : Key}
    (member : .installed i address e key receiveKey ∈ trace)
    (member' : .installed i' address' e' key receiveKey' ∈ trace) : i' = i := by
  induction trace with
  | nil => cases member
  | cons effect earlier ih =>
    rcases List.mem_cons.mp member with rfl | before
    · rcases List.mem_cons.mp member' with same | before'
      · cases same
        rfl
      · exact absurd before' (once.1 _ _ _ _ rfl _ _ _ _)
    · rcases List.mem_cons.mp member' with rfl | before'
      · exact absurd before (once.1 _ _ _ _ rfl _ _ _ _)
      · exact ih once.2 before before'

/-- The sequence numbers of the packets sent to clients. -/
def slotNumbers (trace : List Effect) : List UInt64 :=
  trace.filterMap fun
    | .sealed (.client _ _ n) _ => some n
    | _ => none

/-- They are below `2 ^ 64 - 1`. -/
def BelowLast (trace : List Effect) : Prop := noSequence ∉ slotNumbers trace

instance (trace : List Effect) : Decidable (BelowLast trace) :=
  inferInstanceAs (Decidable (noSequence ∉ slotNumbers trace))

theorem BelowLast.ne {trace : List Effect} (below : BelowLast trace) {i : Nat} {p : Packet}
    {n : UInt64} {call : AeadCall} (member : .sealed (.client i p n) call ∈ trace) :
    n ≠ noSequence := by
  rintro rfl
  exact below (List.mem_filterMap.mpr ⟨_, member, rfl⟩)

theorem BelowLast.of_suffix {before after : List Effect} (suffix : before <:+ after)
    (below : BelowLast after) : BelowLast before :=
  fun member => below ((suffix.filterMap _).subset member)

/-- The server was started at most once. -/
def OneRun (trace : List Effect) : Prop :=
  (trace.countP fun
    | .started _ _ _ => true
    | _ => false) ≤ 1

instance (trace : List Effect) : Decidable (OneRun trace) := inferInstanceAs (Decidable (_ ≤ 1))

/-- Clients are installed while the server runs. -/
def InstallsRunning (trace : List Effect) : Prop :=
  Always (fun effect earlier => ∀ i address e sendKey receiveKey,
    effect = .installed i address e sendKey receiveKey → runSlots earlier ≠ none) trace

/-- A running server was started. -/
theorem started_of_runSlots {trace : List Effect} (running : runSlots trace ≠ none) :
    ∃ new maxClients challengeKey reading earlier,
      trace = new ++ .started maxClients challengeKey reading :: earlier ∧
        ∀ effect ∈ new, effect.boundary = false := by
  obtain ⟨slots, isSlots⟩ := Option.ne_none_iff_exists'.mp running
  obtain ⟨effect, found, isStart⟩ := Option.bind_eq_some_iff.mp isSlots
  obtain ⟨-, new, earlier, isTrace, inside⟩ := List.find?_eq_some_iff_append.mp found
  cases effect with
  | started maxClients challengeKey reading =>
    exact ⟨new, maxClients, challengeKey, reading, earlier, isTrace, by simpa using inside⟩
  | _ => cases isStart

/-- **In one run of the server, a key that is installed once per run is installed once.** -/
theorem InstallsOnce.installedOnce {trace : List Effect} (once : InstallsOnce trace)
    (running : InstallsRunning trace) (oneRun : OneRun trace) (key : Key) :
    InstalledOnce key trace := by
  induction trace with
  | nil => trivial
  | cons effect earlier ih =>
    have shorter : OneRun earlier := ((List.suffix_cons _ _).sublist.countP_le).trans oneRun
    refine ⟨fun i address e receiveKey isInstalled i' address' e' receiveKey' member => ?_,
      ih once.2 running.2 shorter⟩
    obtain ⟨new, maxClients, challengeKey, reading, rest, rfl, inside⟩ :=
      started_of_runSlots (running.1 i address e key receiveKey isInstalled)
    rcases List.mem_append.mp member with inRun | before
    · refine once.1 i address e key receiveKey isInstalled i' address' e' receiveKey' ?_
      rw [thisRun_append inside]
      exact List.mem_append_left _ inRun
    · -- an installation before the start was made in another run
      obtain ⟨later, rest', isRest⟩ := List.append_of_mem
        ((List.mem_cons.mp before).resolve_left (by simp))
      have earlier' := running.2.of_suffix (List.IsSuffix.trans (List.suffix_cons _ _)
        (List.suffix_append new (.started maxClients challengeKey reading :: rest)))
      rw [isRest] at earlier'
      obtain ⟨new', maxClients', challengeKey', reading', rest'', rfl, -⟩ :=
        started_of_runSlots (earlier'.at i' address' e' key receiveKey' rfl)
      rw [isRest, OneRun] at shorter
      simp only [List.countP_append, List.countP_cons, ↓reduceIte] at shorter
      omega

namespace Server

variable {env : Platform} {config : ServerConfig} {s s' : Server} {key : Key} {i e : Nat}

/-! ### The numbers of a slot -/

/-- **The payloads sent under a key have different numbers**, all behind the counter of the slot that
has the key. -/
structure Outgoing (key : Key) (s : Server) : Prop where
  once : ∀ i, ((sendsUnder key i s.trace).map Prod.snd).Nodup
  below : ∀ i, Sends s i key → ∀ entry ∈ sendsUnder key i s.trace,
    entry.2.toNat < (s.clients i).sequence.toNat

/-- A step in which nothing is submitted: counters move forward. -/
theorem Outgoing.grown (inv : Outgoing key s) {new : List Effect} (trace : s'.trace = new ++ s.trace)
    (none : ∀ effect ∈ new, effect.submits = none)
    (sends : ∀ i, Sends s' i key → (∀ entry, entry ∉ sendsUnder key i s.trace) ∨
      Sends s i key ∧ (s.clients i).sequence.toNat ≤ (s'.clients i).sequence.toNat) :
    Outgoing key s' := by
  refine ⟨fun i => ?_, fun i sending entry member => ?_⟩
  · rw [trace, sendsUnder_grown none]
    exact inv.once i
  · rw [trace, sendsUnder_grown none] at member
    rcases sends i sending with nothing | ⟨before, forward⟩
    · exact absurd member (nothing entry)
    · exact (inv.below i before entry member).trans_le forward

/-- **What one atom can submit**: nothing, or the payload of a `SendPacket`. -/
theorem Atom.submits (atom : Atom env config s s') :
    (∃ new, s'.trace = new ++ s.trace ∧ ∀ effect ∈ new, effect.submits = none) ∨
      ∃ i e payload, (s.clients i).connected = true ∧ (s.clients i).loopback = false ∧
        (s.clients i).encryptionIndex = some e ∧
        s' = writeToClient env config
          { s with
            encryptionManager := s.encryptionManager.access e s.time
            trace := .submitted i payload (s.clients i).sequence :: s.trace }
          (.connectionPayload payload) i (s.encryptionManager.mapping e).sendKey := by
  cases atom with
  | arrive reading source data =>
    exact .inl ⟨[.datagram reading source data], rfl, by simp [Effect.submits]⟩
  | micro micro =>
    cases micro with
    | tick | refresh | connectLoopback | disconnectLoopback => exact .inl ⟨[], rfl, by simp⟩
    | clock reading => exact .inl ⟨[_], rfl, by simp [Effect.submits]⟩
    | openRequest => exact .inl ⟨[_, _], rfl, by simp [Effect.submits]⟩
    | openPacket source reading data clientIndex e outcome call running head located reads isOpened
        notRequest =>
      obtain ⟨clients, same, -⟩ := applyReading_eq s source reading clientIndex outcome isOpened
        notRequest
      rw [same]
      exact .inl ⟨[.opened .packet call], rfl, by simp [Effect.submits]⟩
    | respond => exact .inl ⟨[_, _], rfl, by simp [Effect.submits]⟩
    | deny => exact .inl ⟨[_, _], rfl, by simp [Effect.submits]⟩
    | ask | grant => exact .inl ⟨[_], rfl, by simp [Effect.submits]⟩
    | issue => exact .inl ⟨[_, _, _, _], rfl, by simp [Effect.submits]⟩
    | install => exact .inl ⟨[_], rfl, by simp [Effect.submits]⟩
    | send p i e note connected network mapped kind =>
      cases kind with
      | keepAlive | disconnect => exact .inl ⟨[_, _], rfl, by simp [Effect.submits]⟩
      | payload payload => exact .inr ⟨i, e, payload, connected, network, mapped, rfl⟩
    | release i e => exact .inl ⟨[_], rfl, by simp [Effect.submits]⟩
    | change i slot effects change =>
      refine .inl ⟨effects, rfl, ?_⟩
      cases change with
      | push => split_ifs <;> simp [Effect.submits]
      | deliver => split <;> simp [Effect.submits]
      | _ => simp [Effect.submits]
    | reset => exact .inl ⟨[_], rfl, by simp [Effect.submits]⟩
    | start => exact .inl ⟨[_, _], rfl, by simp [Effect.submits]⟩

/-- The counter behind a packet whose number is not the last. -/
theorem sequence_succ {n : UInt64} (below : n ≠ noSequence) : (n + 1).toNat = n.toNat + 1 := by
  refine toNat_succ ?_
  have top : noSequence.toNat = 2 ^ 64 - 1 := by decide
  have bounded := n.toNat_lt
  have other : n.toNat ≠ 2 ^ 64 - 1 := fun same => below (UInt64.toNat_inj.mp (same.trans top.symm))
  omega

/-- The counter of a client that stays connected moves forward. -/
theorem Atom.sequence_forward (binding : Binding env s) (provenance : Provenance config s)
    (atom : Atom env config s s') (before : Sends s i key) (sending : Sends s' i key)
    (below : BelowLast s'.trace) :
    (s.clients i).sequence.toNat ≤ (s'.clients i).sequence.toNat := by
  cases atom.sealStep binding provenance with
  | quiet new trace noSeal settings counters sends => rw [(sends i key sending).2]
  | sendGlobal | issue => exact le_rfl
  | install source e k clientID userData found unbound vacant =>
    have other : i ≠ k := by
      rintro rfl
      rw [before.connected] at vacant
      cases vacant
    simp [installClient, Function.update_of_ne other]
  | send p k e note noSeal connected network mapped =>
    by_cases here : i = k
    · subst here
      have next := sequence_succ (below.ne (List.mem_cons_of_mem _ List.mem_cons_self))
      simp [writeToClient, next]
    · simp [writeToClient, Function.update_of_ne here]
  | boundary effect new trace isBoundary noSeal counters known sends =>
    exact absurd sending (sends i key)

/-- The slot of a connected client has the key of its mapping. -/
theorem InSession.slotKey_eq (inv : InSession s) (connected : (s.clients i).connected = true)
    (network : (s.clients i).loopback = false) (mapped : (s.clients i).encryptionIndex = some e) :
    slotKey i s.trace = some (s.encryptionManager.mapping e).sendKey := by
  obtain ⟨before, isStart, -⟩ := inv.started i e connected network mapped
  rw [slotKey, isStart]
  rfl

/-- **A payload is submitted** under the number of the counter. -/
theorem Outgoing.submit (inv : Outgoing key s) (inSession : InSession s)
    (connected : (s.clients i).connected = true) (network : (s.clients i).loopback = false)
    (mapped : (s.clients i).encryptionIndex = some e) (payload : Bytes)
    (next : ((s.clients i).sequence + 1).toNat = (s.clients i).sequence.toNat + 1) :
    Outgoing key (writeToClient env config
      { s with
        encryptionManager := s.encryptionManager.access e s.time
        trace := .submitted i payload (s.clients i).sequence :: s.trace }
      (.connectionPayload payload) i (s.encryptionManager.mapping e).sendKey) := by
  generalize after : writeToClient env config _ _ i _ = s'
  have isSends : ∀ j, sendsUnder key j s'.trace =
      (if i = j ∧ (s.encryptionManager.mapping e).sendKey = key then [(payload, (s.clients i).sequence)]
        else []) ++ sendsUnder key j s.trace := by
    intro j
    rw [← after]
    by_cases here : i = j
    · subst here
      simp [writeToClient, sendsUnder, Effect.sendUnder, Effect.submits,
        inSession.slotKey_eq connected network mapped]
    · simp [writeToClient, sendsUnder, Effect.sendUnder, Effect.submits, here]
  have back : ∀ j, Sends s' j key → Sends s j key := by
    intro j sending
    have session : SameSession (s.clients j) (s'.clients j) := by
      rw [← after]
      exact writeToClient_session env config { s with
        encryptionManager := s.encryptionManager.access e s.time
        trace := .submitted i payload (s.clients i).sequence :: s.trace }
        (.connectionPayload payload) i (s.encryptionManager.mapping e).sendKey j
    obtain ⟨f, mappedF, -⟩ := sending.mapped
    exact sending.of_held (session.connected.symm.trans sending.connected)
      (session.loopback.symm.trans sending.network) (session.encryptionIndex.symm.trans mappedF)
      (.of_access session (by rw [← after]; rfl))
  have sequence : (s'.clients i).sequence.toNat = (s.clients i).sequence.toNat + 1 := by
    rw [← after, ← next]
    simp [writeToClient]
  refine ⟨fun j => ?_, fun j sending entry member => ?_⟩
  · rw [isSends]
    split_ifs with mine
    · obtain ⟨rfl, isKey⟩ := mine
      refine List.nodup_cons.mpr ⟨fun member => ?_, inv.once i⟩
      obtain ⟨entry, before, same⟩ := List.mem_map.mp member
      have less := inv.below i ⟨connected, network, e, mapped, isKey⟩ entry before
      rw [same] at less
      exact lt_irrefl _ less
    · exact inv.once j
  · rw [isSends] at member
    rcases List.mem_append.mp member with new | old
    · split_ifs at new with mine
      · obtain ⟨rfl, -⟩ := mine
        rw [List.mem_singleton.mp new, sequence]
        exact Nat.lt_succ_self _
      · cases new
    · have less := inv.below j (back j sending) entry old
      by_cases here : j = i
      · subst here
        omega
      · have same : (s'.clients j).sequence = (s.clients j).sequence := by
          rw [← after]
          simp [writeToClient, Function.update_of_ne here]
        rw [same]
        exact less

theorem Outgoing.step (inv : Outgoing key s) (binding : Binding env s)
    (provenance : Provenance config s) (inSession : InSession s) (atom : Atom env config s s')
    (once : InstalledOnce key s'.trace) (below : BelowLast s'.trace) : Outgoing key s' := by
  rcases atom.submits with ⟨new, trace, none⟩ | ⟨k, e, payload, connected, network, mapped, rfl⟩
  · refine inv.grown trace none fun i sending => ?_
    rcases atom.cameFrom binding sending.connected sending.network with
      ⟨connected, network, e, mapped, held⟩ | ⟨e, source, challenge, sequence, call, installing⟩
    · have before := sending.of_held connected network mapped held
      exact .inr ⟨before, atom.sequence_forward binding provenance before sending below⟩
    · -- the key is new, and so is everything that is sent under it
      left
      obtain ⟨f, mapped, isKey⟩ := sending.mapped
      rw [installing.after] at once mapped isKey
      obtain rfl : e = f := by simpa [installClient] using mapped
      replace isKey : (s.encryptionManager.mapping e).sendKey = key := by
        rw [installClient_manager] at isKey
        simpa [EncryptionManager.set] using isKey
      rw [installClient_trace, isKey] at once
      have never := once.1 i source e _ rfl
      rw [sendsUnder_eq_nil fun address e receiveKey => never i address e receiveKey]
      exact fun _ => List.not_mem_nil
  · have next := sequence_succ (below.ne (List.mem_cons_of_mem _ List.mem_cons_self))
    exact inv.submit inSession connected network mapped payload next

/-- What is no event of the counters installs no client. -/
theorem not_installs_of_noSeal {new : List Effect} (noSeal : new.any Effect.sealEvent = false) :
    ∀ effect ∈ new, ∀ i, effect.installs i = false := by
  intro effect member i
  have none := List.any_eq_false.mp noSeal effect member
  cases effect with
  | installed => exact absurd rfl none
  | _ => rfl

theorem Atom.installsRunning (binding : Binding env s) (provenance : Provenance config s)
    (inSession : InSession s) (atom : Atom env config s s') (before : InstallsRunning s.trace) :
    InstallsRunning s'.trace := by
  have quietly : ∀ {new : List Effect}, (∀ effect ∈ new, ∀ i, effect.installs i = false) →
      InstallsRunning (new ++ s.trace) := by
    intro new none
    refine before.append fun effect member earlier i address e sendKey receiveKey isInstalled => ?_
    have other := none effect member i
    rw [isInstalled] at other
    simp [Effect.installs] at other
  cases atom.sealStep binding provenance with
  | quiet new trace noSeal =>
    rw [trace]
    exact quietly (not_installs_of_noSeal noSeal)
  | sendGlobal =>
    show InstallsRunning ([_, _] ++ s.trace)
    exact quietly (by simp [Effect.installs])
  | issue =>
    show InstallsRunning ([_, _, _, _] ++ s.trace)
    exact quietly (by simp [Effect.installs])
  | install source e i clientID userData found unbound vacant =>
    have connected : ((installClient s i source clientID e
        (s.encryptionManager.mapping e).timeout userData).clients i).connected = true := by
      simp [installClient]
    have running : s.running = true := (binding.atom atom).running connected
    rw [installClient_trace]
    refine ⟨fun _ _ _ _ _ _ => ?_, before⟩
    rw [inSession.slots running]
    exact Option.some_ne_none _
  | send p i e note noSeal =>
    show InstallsRunning ((.sent _ _ :: .sealed _ _ :: note) ++ s.trace)
    exact quietly (List.forall_mem_cons.mpr ⟨fun _ => rfl, List.forall_mem_cons.mpr
      ⟨fun _ => rfl, not_installs_of_noSeal noSeal⟩⟩)
  | boundary effect new trace isBoundary noSeal =>
    rw [trace]
    refine ⟨fun i address e sendKey receiveKey isInstalled => ?_,
      quietly (not_installs_of_noSeal noSeal)⟩
    rw [isInstalled] at isBoundary
    cases isBoundary

theorem Run.installsRunning {calls : List Call} (quiet : config.NonReentrant)
    (run : Run env config calls s) : InstallsRunning s.trace :=
  (Run.along (fun _ => True)
    (fun s => Provenance config s ∧ InSession s ∧ InstallsRunning s.trace) quiet
    (fun _ _ _ met => met)
    (fun address address2 time => ⟨.new config address address2 time, .new address address2 time,
      trivial⟩)
    (fun _ _ binding atom _ held => ⟨held.1.step (atom.tokenStep binding),
      held.2.1.step binding atom, atom.installsRunning binding held.1 held.2.1 held.2.2⟩)
    run trivial).2.2

theorem Outgoing.new (key : Key) (address address2 : Address) (time : ℚ) :
    Outgoing key (new address address2 time) where
  once := fun _ => List.nodup_nil
  below := fun _ _ _ member => by cases member

/-- **The payloads sent under a key have different numbers.** -/
theorem Run.outgoing {calls : List Call} (quiet : config.NonReentrant)
    (run : Run env config calls s) (once : InstalledOnce key s.trace) (below : BelowLast s.trace) :
    Outgoing key s :=
  (Run.along (fun trace => InstalledOnce key trace ∧ BelowLast trace)
    (fun s => Provenance config s ∧ InSession s ∧ Outgoing key s) quiet
    (fun _ _ suffix met => ⟨met.1.of_suffix suffix, met.2.of_suffix suffix⟩)
    (fun address address2 time => ⟨.new config address address2 time, .new address address2 time,
      .new key address address2 time⟩)
    (fun _ _ binding atom met held => ⟨held.1.step (atom.tokenStep binding),
      held.2.1.step binding atom, held.2.2.step binding held.1 held.2.1 atom met.1 met.2⟩)
    run ⟨once, below⟩).2.2

end Server

end Netcode
