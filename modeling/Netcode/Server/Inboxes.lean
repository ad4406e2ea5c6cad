/-
**What the server receives from a client.**

Each slot has an inbox: the replay window that its packets pass, and the queue that `ReceivePacket`
reads. Both belong to the session: the inbox of a slot holds what was accepted since its client was
installed, and nothing else.

* `InboxStep` — what one atom can do to the inbox of a client that stays connected;
* `SlotInbox` — the inbox with the payloads accepted and returned in the session, each of which was
  opened under the receive key of the slot;
* `Run.inboxes` — **every slot with a client has such an inbox, and every other slot an empty one.**
-/

import Netcode.Server.Sessions
import Netcode.Tables.Inbox

namespace Netcode

open Trace

/-! ### Payloads in the trace -/

/-- The payload that goes to the queue of slot `i`. -/
def Effect.accepts (i : Nat) : Effect → Option (Bytes × UInt64)
  | .queued j payload n => if j = i then some (payload, n) else none
  | _ => none

/-- The payload that `ReceivePacket` takes from it. -/
def Effect.returns (i : Nat) : Effect → Option (Bytes × UInt64)
  | .delivered j payload n => if j = i then some (payload, n) else none
  | _ => none

/-- The payloads accepted from the client in slot `i`, newest first. -/
def accepted (i : Nat) (trace : List Effect) : List (Bytes × UInt64) :=
  (sessionLog i trace).filterMap (Effect.accepts i)

/-- The payloads of the client in slot `i` that `ReceivePacket` returned, newest first. -/
def returned (i : Nat) (trace : List Effect) : List (Bytes × UInt64) :=
  (sessionLog i trace).filterMap (Effect.returns i)

/-- Effects that have nothing to do with the inbox of slot `i`. -/
def Effect.besides (i : Nat) : Effect → Bool
  | .queued j _ _ | .delivered j _ _ | .installed j _ _ _ _ => decide (j ≠ i)
  | .opened .packet _ => false
  | _ => true

theorem Effect.besides_iff {i : Nat} {effect : Effect} : effect.besides i = true ↔
    effect.installs i = false ∧ effect.accepts i = none ∧ effect.returns i = none ∧
      ∀ call, effect ≠ .opened .packet call := by
  cases effect with
  | opened kind => cases kind <;> simp [besides, installs, accepts, returns]
  | _ => simp [besides, installs, accepts, returns]

section Grown

variable {i : Nat} {new trace : List Effect}

theorem accepted_grown (same : ∀ effect ∈ new, effect.installs i = false) :
    accepted i (new ++ trace) = new.filterMap (Effect.accepts i) ++ accepted i trace := by
  rw [accepted, sessionLog_append same, List.filterMap_append]
  rfl

theorem returned_grown (same : ∀ effect ∈ new, effect.installs i = false) :
    returned i (new ++ trace) = new.filterMap (Effect.returns i) ++ returned i trace := by
  rw [returned, sessionLog_append same, List.filterMap_append]
  rfl

/-- Effects besides the inbox leave its payloads as they are. -/
theorem payloads_besides (besides : new.all (Effect.besides i) = true) :
    accepted i (new ++ trace) = accepted i trace ∧ returned i (new ++ trace) = returned i trace := by
  have each : ∀ effect ∈ new, _ := fun effect member =>
    Effect.besides_iff.mp (List.all_eq_true.mp besides effect member)
  rw [accepted_grown fun effect member => (each effect member).1,
    returned_grown fun effect member => (each effect member).1,
    List.filterMap_eq_nil_iff.mpr fun effect member => (each effect member).2.1,
    List.filterMap_eq_nil_iff.mpr fun effect member => (each effect member).2.2.1]
  exact ⟨rfl, rfl⟩

/-- An opened packet is not accepted yet. -/
theorem payloads_opened (i : Nat) (kind : OpenKind) (call : AeadCall) (trace : List Effect) :
    accepted i (.opened kind call :: trace) = accepted i trace ∧
      returned i (.opened kind call :: trace) = returned i trace :=
  ⟨rfl, rfl⟩

theorem payloads_installed (i : Nat) (address : Address) (e : Nat) (sendKey receiveKey : Key)
    (trace : List Effect) :
    accepted i (.installed i address e sendKey receiveKey :: trace) = [] ∧
      returned i (.installed i address e sendKey receiveKey :: trace) = [] := by
  simp [accepted, returned, sessionLog, Effect.installs]

end Grown

namespace Server

variable {env : Platform} {config : ServerConfig} {s s' : Server} {i e : Nat}

/-! ### One atom -/

/-- Reading a datagram moves the replay window of the slot it is for. -/
theorem applyReading_slot (s : Server) (source : Address) (reading : UInt64)
    (clientIndex : Option Nat) (outcome : ReadOutcome) (j : Nat) :
    (s.applyReading source reading clientIndex outcome).clients j =
      if clientIndex = some j then
        { s.clients j with
          replayProtection := outcome.replayProtection.getD (s.clients j).replayProtection }
      else s.clients j := by
  have records : ∀ s : Server, (s.recordReading source reading outcome.opened outcome.packet).clients =
      s.clients := by
    intro s
    unfold recordReading
    split <;> rfl
  rw [applyReading, records]
  unfold setWindow
  split
  · rename_i k window isWindow
    rw [isWindow]
    by_cases here : k = j
    · subst here
      simp [setClient]
    · have other : j ≠ k := Ne.symm here
      simp [setClient, here, other]
  · rename_i notBoth
    split_ifs with here
    · cases isWindow : outcome.replayProtection with
      | none => rfl
      | some window => exact absurd isWindow (notBoth j window here)
    · rfl

/-- The client of an address is found by it. -/
theorem Binding.findsClient {source : Address} (inv : Binding env s)
    (connected : (s.clients i).connected = true) (network : (s.clients i).loopback = false)
    (equal : (s.clients i).address.Equal source = true) :
    s.findClientIndexByAddress source = some i := by
  obtain ⟨e, bound⟩ := inv.bound i connected network
  cases found : s.findClientIndexByAddress source with
  | none =>
    rw [findClientIndexByAddress_eq_none.mp found i (inv.inUse connected) connected] at equal
    cases equal
  | some j =>
    obtain ⟨connectedJ, networkJ⟩ := inv.found found
    obtain ⟨f, boundJ⟩ := inv.bound j connectedJ networkJ
    have equalJ := (findClientIndexByAddress_eq_some found).2.2
    -- the mappings of the two have the same address and a client each, so they are one
    have same : (s.encryptionManager.mapping e).address.Equal
        (s.encryptionManager.mapping f).address = true :=
      Address.Equal.trans (Address.Equal.trans bound.address equal)
        (Address.Equal.symm (Address.Equal.trans boundJ.address equalJ))
    obtain rfl : e = f := by
      by_contra other
      rcases Nat.lt_or_gt_of_ne other with less | greater
      · rw [inv.table.first e f less (by simp [boundJ.client])] at same
        cases same
      · have swapped := Address.Equal.symm same
        rw [inv.table.first f e greater (by simp [bound.client])] at swapped
        cases swapped
    exact boundJ.client.symm.trans bound.client

/-- **What one atom can do to the inbox of a client** that stays connected. -/
inductive InboxStep (env : Platform) (config : ServerConfig) (s s' : Server) (i : Nat) : Prop
  | keep (new : List Effect) (trace : s'.trace = new ++ s.trace)
      (besides : new.all (Effect.besides i) = true)
      (window : (s'.clients i).replayProtection = (s.clients i).replayProtection)
      (queue : (s'.clients i).packetQueue = (s.clients i).packetQueue)
  | opened (source : Address) (reading : UInt64) (data : Bytes) (earlier : List Effect) (e : Nat)
      (outcome : ReadOutcome) (call : AeadCall)
      (head : s.trace = .datagram reading source data :: earlier)
      (address : (s.clients i).address.Equal source = true)
      (reads : ReadsAs env config.protocolID reading s.minConnectTokenExpireTimestamp
        serverAllowedPackets data (some (s.encryptionManager.mapping e).receiveKey)
        (some config.privateKey) (some (s.clients i).replayProtection) outcome)
      (isOpened : outcome.opened = some call)
      (notRequest : ∀ request, outcome.packet ≠ some (.connectionRequest request))
      (trace : s'.trace = .opened .packet call :: s.trace)
      (window : (s'.clients i).replayProtection =
        outcome.replayProtection.getD (s.clients i).replayProtection)
      (queue : (s'.clients i).packetQueue = (s.clients i).packetQueue)
  | elsewhere (source : Address) (reading : UInt64) (data : Bytes) (earlier : List Effect)
      (call : AeadCall) (head : s.trace = .datagram reading source data :: earlier)
      (address : (s.clients i).address.Equal source = false)
      (trace : s'.trace = .opened .packet call :: s.trace)
      (window : (s'.clients i).replayProtection = (s.clients i).replayProtection)
      (queue : (s'.clients i).packetQueue = (s.clients i).packetQueue)
  | push (source : Address) (e : Nat) (payload : Bytes) (n : UInt64) (call : AeadCall)
      (address : (s.clients i).address.Equal source = true)
      (mapped : (s.clients i).encryptionIndex = some e)
      (packet : PacketOpened config s source e (.connectionPayload payload) n call)
      (trace : s'.trace = (if ((s.clients i).packetQueue.push payload n).2 then [.queued i payload n]
        else []) ++ s.trace)
      (window : (s'.clients i).replayProtection = (s.clients i).replayProtection)
      (queue : (s'.clients i).packetQueue = ((s.clients i).packetQueue.push payload n).1)
  | pop (trace : s'.trace = (match (s.clients i).packetQueue.pop.2.1 with
        | some payload => [.delivered i payload (s.clients i).packetQueue.pop.2.2]
        | none => []) ++ s.trace)
      (window : (s'.clients i).replayProtection = (s.clients i).replayProtection)
      (queue : (s'.clients i).packetQueue = (s.clients i).packetQueue.pop.1)

/-- What a change of another slot shows is besides this one. -/
theorem LocalChange.besides {k : Nat} {slot : ClientSlot} {effects : List Effect}
    (change : LocalChange config s k slot effects) (other : k ≠ i) :
    effects.all (Effect.besides i) = true := by
  cases change with
  | push payload sequence => split_ifs <;> simp [Effect.besides, other]
  | deliver => split <;> simp [Effect.besides, other]
  | _ => simp [Effect.besides]

/-- **Every atom is such a step**, for a client on the network that was there before and still is. -/
theorem Atom.inboxStep (inv : Binding env s) (atom : Atom env config s s')
    (connected : (s.clients i).connected = true) (network : (s.clients i).loopback = false)
    (stays : (s'.clients i).connected = true) : InboxStep env config s s' i := by
  cases atom with
  | arrive reading source data => exact .keep [.datagram reading source data] rfl rfl rfl rfl
  | micro micro =>
    cases micro with
    | tick | refresh => exact .keep [] rfl rfl rfl rfl
    | clock reading => exact .keep [.clock reading] rfl rfl rfl rfl
    | openRequest source reading data request call =>
      exact .keep [.requested source request reading call, .opened .connectToken call] rfl rfl rfl rfl
    | openPacket source reading data clientIndex e outcome call running head located reads isOpened
        notRequest =>
      obtain ⟨earlier, head⟩ := head
      obtain ⟨clients, same, -⟩ := applyReading_eq s source reading clientIndex outcome isOpened
        notRequest
      have trace : (s.applyReading source reading clientIndex outcome).trace =
          .opened .packet call :: s.trace := by
        rw [same]
      have slot := applyReading_slot s source reading clientIndex outcome i
      cases address : (s.clients i).address.Equal source with
      | true =>
        obtain rfl : clientIndex = some i :=
          located.1.symm.trans (inv.findsClient connected network address)
        rw [if_pos rfl] at slot
        exact .opened source reading data earlier e outcome call head address reads isOpened notRequest
          trace (by rw [slot]) (by rw [slot])
      | false =>
        have other : clientIndex ≠ some i := by
          rintro rfl
          rw [(findClientIndexByAddress_eq_some located.1).2.2] at address
          cases address
        rw [if_neg other] at slot
        exact .elsewhere source reading data earlier call head address trace (by rw [slot])
          (by rw [slot])
    | respond source clientIndex e sequence challengeTokenSequence data packetCall call =>
      exact .keep [.responded _ _ _ _, .opened .challengeToken call] rfl rfl rfl rfl
    | deny destination key => exact .keep [.sent _ _, .sealed _ _] rfl rfl rfl rfl
    | ask source request token reading => exact .keep [.clock reading] rfl rfl rfl rfl
    | grant source request token reading => exact .keep [.clock reading] rfl rfl rfl rfl
    | issue source request token =>
      exact .keep [.sent _ _, .sealed _ _, .challenged _ _ _, .sealed _ _] rfl rfl rfl rfl
    | install source e k challenge sequence call responding strangerAddress strangerID found vacant =>
      have other : i ≠ k := by
        rintro rfl
        rw [(findFreeClientIndex_eq_some vacant).2] at connected
        cases connected
      refine .keep [.installed k source e _ _] rfl ?_ ?_ ?_
      · simp [Effect.besides, Ne.symm other]
      · simp [installClient, Function.update_of_ne other]
      · simp [installClient, Function.update_of_ne other]
    | send p k e note connectedK networkK mapped kind =>
      refine .keep (.sent _ _ :: .sealed _ _ :: note) rfl (by cases kind <;> rfl) ?_ ?_
      · by_cases here : i = k
        · subst here
          simp [writeToClient]
        · simp [writeToClient, Function.update_of_ne here]
      · by_cases here : i = k
        · subst here
          simp [writeToClient]
        · simp [writeToClient, Function.update_of_ne here]
    | release k e =>
      have other : i ≠ k := by
        rintro rfl
        rw [releaseClient_slot] at stays
        cases stays
      have slot : (releaseClient env s k e).clients i = s.clients i :=
        releaseClient_others s k e other
      exact .keep [.released k e] rfl rfl (by rw [slot]) (by rw [slot])
    | change k slot effects change =>
      by_cases here : k = i
      · subst here
        have slot : ({ s.setClient k slot with trace := effects ++ s.trace } : Server).clients k =
          slot := Function.update_self _ _ _
        cases change with
        | reason | hear | hearLoopback | sendLoopback =>
          exact .keep _ rfl rfl (by rw [slot]) (by rw [slot])
        | push payload n origin =>
          rcases origin with loopback | ⟨source, e, call, found, mapped, packet⟩
          · rw [network] at loopback
            cases loopback
          · exact .push source e payload n call (findClientIndexByAddress_eq_some found).2.2 mapped
              packet rfl (by rw [slot]) (by rw [slot])
        | deliver => exact .pop rfl (by rw [slot]) (by rw [slot])
      · have slot : ({ s.setClient k slot with trace := effects ++ s.trace } : Server).clients i =
          s.clients i := Function.update_of_ne (Ne.symm here) _ _
        exact .keep effects rfl (change.besides here) (by rw [slot]) (by rw [slot])
    | connectLoopback k clientID userData small free =>
      have other : i ≠ k := by
        rintro rfl
        rw [free] at connected
        cases connected
      exact .keep [] rfl rfl (by simp [setClient, Function.update_of_ne other])
        (by simp [setClient, Function.update_of_ne other])
    | disconnectLoopback k connectedK loopbackK =>
      have other : i ≠ k := by
        rintro rfl
        rw [loopbackK] at network
        cases network
      exact .keep [] rfl rfl (by simp [resetClientSlot, setClient, Function.update_of_ne other])
        (by simp [resetClientSlot, setClient, Function.update_of_ne other])
    | reset gone =>
      rw [gone i (inv.inUse connected)] at connected
      cases connected
    | start maxClients challengeKey reading idle =>
      rw [inv.running connected] at idle
      cases idle

/-! ### The inbox of a session -/

/-- **The inbox of the client in slot `i`.** -/
structure SlotInbox (config : ServerConfig) (s : Server) (i : Nat) : Prop where
  inbox : Inbox (s.clients i).replayProtection (s.clients i).packetQueue (accepted i s.trace)
    (returned i s.trace)
  /-- A payload that was just opened for it is none of those accepted before. -/
  just : ∀ call reading source data earlier payload n,
    s.trace = .opened .packet call :: .datagram reading source data :: earlier →
    (s.clients i).address.Equal source = true →
    Decodes config.protocolID call (.connectionPayload payload) n →
    JustReceived (s.clients i).replayProtection (accepted i s.trace) n
  /-- Every payload was opened under the receive key of the slot. -/
  origin : ∀ e, (s.clients i).encryptionIndex = some e → ∀ entry ∈ accepted i s.trace,
    ∃ call, .opened .packet call ∈ s.trace ∧
      call.key = (s.encryptionManager.mapping e).receiveKey ∧
      Decodes config.protocolID call (.connectionPayload entry.1) entry.2

/-- What was opened in the trace stays there. -/
theorem SlotInbox.origin_grown (inv : SlotInbox config s i) (held : SameHold s s' i e)
    (mapped : (s.clients i).encryptionIndex = some e) {new : List Effect}
    (trace : s'.trace = new ++ s.trace) {entry : Bytes × UInt64}
    (member : entry ∈ accepted i s.trace) :
    ∃ call, .opened .packet call ∈ s'.trace ∧
      call.key = (s'.encryptionManager.mapping e).receiveKey ∧
      Decodes config.protocolID call (.connectionPayload entry.1) entry.2 := by
  obtain ⟨call, isOpened, key, decodes⟩ := inv.origin e mapped entry member
  refine ⟨call, ?_, key.trans held.receiveKey.symm, decodes⟩
  rw [trace]
  exact List.mem_append_right _ isOpened

/-- **Every step keeps the inbox of a client that stays.** -/
theorem SlotInbox.step (inv : SlotInbox config s i) (held : SameHold s s' i e)
    (mapped : (s.clients i).encryptionIndex = some e) (step : InboxStep env config s s' i) :
    SlotInbox config s' i := by
  have sameMapping : ∀ f, (s'.clients i).encryptionIndex = some f → f = e := by
    intro f mappedF
    rw [held.session.encryptionIndex, mapped] at mappedF
    exact (Option.some_inj.mp mappedF).symm
  cases step with
  | keep new trace besides window queue =>
    obtain ⟨sameAccepted, sameReturned⟩ := @payloads_besides i new s.trace besides
    refine ⟨?_, fun call reading source data earlier payload n isTrace address decodes => ?_,
      fun f mappedF entry member => ?_⟩
    · rw [trace, window, queue, sameAccepted, sameReturned]
      exact inv.inbox
    · rw [trace, sameAccepted, window]
      cases new with
      | nil =>
        rw [held.session.address] at address
        exact inv.just call reading source data earlier payload n (trace.symm.trans isTrace) address
          decodes
      | cons effect rest =>
        have isHead := (List.cons_eq_cons.mp (trace.symm.trans isTrace)).1
        have first := List.all_eq_true.mp besides effect List.mem_cons_self
        exact absurd isHead ((Effect.besides_iff.mp first).2.2.2 call)
    · obtain rfl := sameMapping f mappedF
      rw [trace, sameAccepted] at member
      exact inv.origin_grown held mapped trace member
  | opened source reading data earlier f outcome call head address reads isOpened notRequest trace
      window queue =>
    obtain ⟨window', isWindow, inbox, just⟩ := reads.received isOpened notRequest inv.inbox
    rw [isWindow, Option.getD_some] at window
    obtain ⟨sameAccepted, sameReturned⟩ := payloads_opened i .packet call s.trace
    rw [← trace] at sameAccepted sameReturned
    refine ⟨?_, fun call' reading' source' data' earlier' payload n isTrace _ decodes => ?_,
      fun g mappedG entry member => ?_⟩
    · rw [window, queue, sameAccepted, sameReturned]
      exact inbox
    · rw [window, sameAccepted]
      obtain rfl : call = call' := by
        rw [trace] at isTrace
        simpa using (List.cons_eq_cons.mp isTrace).1
      exact just payload n decodes
    · obtain rfl := sameMapping g mappedG
      rw [sameAccepted] at member
      exact inv.origin_grown held mapped (trace.trans (List.singleton_append.symm)) member
  | elsewhere source reading data earlier call head address trace window queue =>
    obtain ⟨sameAccepted, sameReturned⟩ := payloads_opened i .packet call s.trace
    rw [← trace] at sameAccepted sameReturned
    refine ⟨?_, fun call' reading' source' data' earlier' payload n isTrace address' _ => ?_,
      fun g mappedG entry member => ?_⟩
    · rw [window, queue, sameAccepted, sameReturned]
      exact inv.inbox
    · -- the packet came from another address
      rw [trace, head] at isTrace
      cases isTrace
      rw [held.session.address, address] at address'
      cases address'
    · obtain rfl := sameMapping g mappedG
      rw [sameAccepted] at member
      exact inv.origin_grown held mapped (trace.trans (List.singleton_append.symm)) member
  | push source f payload n call address mappedF packet trace window queue =>
    obtain rfl : f = e := Option.some_inj.mp (mappedF.symm.trans mapped)
    obtain ⟨reading, data, earlier, head⟩ := packet.head
    have decodes : Decodes config.protocolID call (.connectionPayload payload) n :=
      ⟨packet.nonce, packet.decodes⟩
    have just := inv.just call reading source data earlier payload n head address decodes
    have pushed := inv.inbox.push just payload
    have sameReturned : returned i s'.trace = returned i s.trace := by
      rw [trace]
      split_ifs <;> rfl
    have isAccepted : accepted i s'.trace =
        (if ((s.clients i).packetQueue.push payload n).2 then [(payload, n)] else []) ++
          accepted i s.trace := by
      rw [trace]
      split_ifs
      · rw [accepted_grown (by simp [Effect.installs])]
        simp [Effect.accepts]
      · rfl
    refine ⟨?_, fun call' reading' source' data' earlier' payload' m isTrace address' decodes' => ?_,
      fun g mappedG entry member => ?_⟩
    · rw [window, queue, isAccepted, sameReturned]
      exact pushed
    · rw [trace] at isTrace
      split_ifs at isTrace with isPushed
      · cases isTrace
      · rw [window, isAccepted, if_neg isPushed]
        rw [held.session.address] at address'
        exact inv.just call' reading' source' data' earlier' payload' m isTrace address' decodes'
    · obtain rfl := sameMapping g mappedG
      rw [isAccepted] at member
      rcases List.mem_append.mp member with new | old
      · obtain ⟨rfl⟩ : entry = (payload, n) := by
          split_ifs at new
          · exact List.mem_singleton.mp new
          · cases new
        refine ⟨call, ?_, packet.key.trans held.receiveKey.symm, decodes⟩
        rw [trace, head]
        exact List.mem_append_right _ List.mem_cons_self
      · exact inv.origin_grown held mapped trace old
  | pop trace window queue =>
    have sameAccepted : accepted i s'.trace = accepted i s.trace := by
      rw [trace]
      split <;> rfl
    have isReturned : returned i s'.trace =
        popped (s.clients i).packetQueue ++ returned i s.trace := by
      rw [trace, popped]
      cases (s.clients i).packetQueue.pop.2.1 with
      | some payload =>
        rw [returned_grown (by simp [Effect.installs])]
        simp [Effect.returns]
      | none => rfl
    refine ⟨?_, fun call' reading' source' data' earlier' payload' m isTrace address' decodes' => ?_,
      fun g mappedG entry member => ?_⟩
    · rw [window, queue, sameAccepted, isReturned]
      exact inv.inbox.pop
    · rw [trace] at isTrace
      rw [window, sameAccepted]
      split at isTrace
      · cases isTrace
      · rw [held.session.address] at address'
        exact inv.just call' reading' source' data' earlier' payload' m isTrace address' decodes'
    · obtain rfl := sameMapping g mappedG
      rw [sameAccepted] at member
      exact inv.origin_grown held mapped trace member

/-! ### Every slot -/

/-- A slot without a client has an empty queue. -/
def Tidy (slot : ClientSlot) : Prop :=
  slot.packetQueue.Ok ∧ (slot.connected = false → slot.packetQueue.contents = [])

theorem tidy_clear {slot : ClientSlot} (empty : slot.packetQueue = .clear) :
    Tidy slot := by
  refine ⟨?_, fun _ => ?_⟩
  · rw [empty]
    exact PacketQueue.ok_clear
  · rw [empty]
    rfl

/-- A slot with a client may have anything in its queue. -/
theorem Tidy.connected {slot slot' : ClientSlot} (tidy : Tidy slot)
    (queue : slot'.packetQueue = slot.packetQueue) (connected : slot'.connected = true) :
    Tidy slot' := by
  refine ⟨queue ▸ tidy.1, fun vacant => ?_⟩
  rw [connected] at vacant
  cases vacant

theorem Tidy.same {slot slot' : ClientSlot} (tidy : Tidy slot)
    (queue : slot'.packetQueue = slot.packetQueue) (connected : slot'.connected = slot.connected) :
    Tidy slot' := by
  rw [Tidy, queue, connected]
  exact tidy

/-- A local change leaves its slot tidy. -/
theorem LocalChange.tidy {slot : ClientSlot} {effects : List Effect} (inv : Binding env s)
    (tidy : Tidy (s.clients i)) (change : LocalChange config s i slot effects) :
    Tidy slot := by
  cases change with
  | reason | hear | hearLoopback | sendLoopback => exact tidy.same rfl rfl
  | push payload n origin =>
    refine ⟨PacketQueue.ok_push tidy.1 payload n, fun vacant => ?_⟩
    have connected : (s.clients i).connected = true := by
      rcases origin with loopback | ⟨source, e, call, found, -⟩
      · by_contra vacant
        rw [inv.vacant i (by simpa using vacant)] at loopback
        cases loopback
      · exact (inv.found found).1
    rw [show (s.clients i).connected = false from vacant] at connected
    cases connected
  | deliver connected =>
    refine ⟨PacketQueue.ok_pop tidy.1, fun vacant => ?_⟩
    rw [show (s.clients i).connected = false from vacant] at connected
    cases connected

/-- **Every atom leaves every slot tidy.** -/
theorem Atom.tidy (inv : Binding env s) (atom : Atom env config s s')
    (tidy : ∀ j, Tidy (s.clients j)) (j : Nat) : Tidy (s'.clients j) := by
  have update : ∀ k slot, Tidy slot →
      Tidy (Function.update s.clients k slot j) := by
    intro k slot tidySlot
    by_cases here : j = k
    · subst here
      rw [Function.update_self]
      exact tidySlot
    · rw [Function.update_of_ne here]
      exact tidy j
  cases atom with
  | arrive => exact tidy j
  | micro micro =>
    cases micro with
    | tick | clock | refresh | openRequest | respond | deny | ask | grant | issue | reset =>
      exact tidy j
    | openPacket source reading data clientIndex e outcome call running head located reads isOpened
        notRequest =>
      rw [applyReading_slot]
      split_ifs
      · exact (tidy j).same rfl rfl
      · exact tidy j
    | install source e k => exact update k _ ((tidy k).connected rfl rfl)
    | send p k e note connected network mapped kind => exact update k _ ((tidy k).same rfl rfl)
    | release k e =>
      by_cases here : j = k
      · subst here
        rw [releaseClient_slot]
        exact tidy_clear rfl
      · rw [releaseClient_others s k e here]
        exact tidy j
    | change k slot effects change => exact update k slot (change.tidy inv (tidy k))
    | connectLoopback k => exact update k _ ((tidy k).connected rfl rfl)
    | disconnectLoopback k => exact update k _ (tidy_clear rfl)
    | start maxClients challengeKey reading =>
      by_cases small : j < maxClients
      · exact tidy_clear (if_pos small)
      · exact (tidy j).same (if_neg small) rfl

/-- **The inboxes of a server.** -/
structure Inboxes (config : ServerConfig) (s : Server) : Prop where
  tidy : ∀ i, Tidy (s.clients i)
  slot : ∀ i, (s.clients i).connected = true → (s.clients i).loopback = false → SlotInbox config s i

theorem Inboxes.step (inv : Inboxes config s) (binding : Binding env s)
    (atom : Atom env config s s') : Inboxes config s' := by
  refine ⟨atom.tidy binding inv.tidy, fun i connected network => ?_⟩
  rcases atom.cameFrom binding connected network with
    ⟨connected', network', e, mapped, held⟩ | ⟨e, source, challenge, sequence, call, installing⟩
  · exact (inv.slot i connected' network').step held mapped
      (atom.inboxStep binding connected' network' connected)
  · -- a new client finds the queue of its slot empty
    obtain rfl := installing.after
    have vacant := (findFreeClientIndex_eq_some installing.free).2
    obtain ⟨noneAccepted, noneReturned⟩ := payloads_installed i source e
      (s.encryptionManager.mapping e).sendKey (s.encryptionManager.mapping e).receiveKey s.trace
    rw [← installClient_trace] at noneAccepted noneReturned
    refine ⟨?_, fun call' reading' source' data' earlier' payload n isTrace => ?_,
      fun f _ entry member => ?_⟩
    · rw [noneAccepted, noneReturned]
      refine Inbox.start ?_ ?_
      · simpa [installClient] using (inv.tidy i).1
      · simpa [installClient] using (inv.tidy i).2 vacant
    · rw [installClient_trace] at isTrace
      cases isTrace
    · rw [noneAccepted] at member
      cases member

theorem Inboxes.new (config : ServerConfig) (address address2 : Address) (time : ℚ) :
    Inboxes config (new address address2 time) where
  tidy := fun _ => tidy_clear rfl
  slot := fun _ connected => by cases connected

theorem Run.inboxes {calls : List Call} (quiet : config.NonReentrant)
    (run : Run env config calls s) : Inboxes config s :=
  Run.along (fun _ => True) (Inboxes config) quiet (fun _ _ _ met => met)
    (fun address address2 time => .new config address address2 time)
    (fun _ _ binding atom _ held => held.step binding atom) run trivial

end Server

end Netcode
