/-
**The sessions of a slot, in the trace.**

The trace tells the story of every session: a response that opened under the keys of a mapping, the
installation of these keys in a slot, and the packets that the slot then sends under them.

* `SessionStep` — what one atom can do to the sessions: nothing, install a client, or end a run;
* `InSession` — a connected client was installed in its slot, in this run, with the keys its mapping
  still has;
* `Explained`, `Run.explained` — **every effect has its reason**: each response, each installation
  and each packet the server seals is explained by what the trace shows before it.
-/

import Netcode.Codec.Packets
import Netcode.Server.SlotMapping
import Netcode.Server.Tokens

namespace Netcode

open Trace

/-! ### Sessions in the trace -/

/-- A client is installed in slot `i`. -/
def Effect.installs (i : Nat) : Effect → Bool
  | .installed j _ _ _ _ => decide (j = i)
  | _ => false

/-- The trace since a client was last installed in slot `i`. -/
def sessionLog (i : Nat) (trace : List Effect) : List Effect :=
  trace.takeWhile fun effect => !effect.installs i

/-- The trace up to then, with the installation first. -/
def sessionStart (i : Nat) (trace : List Effect) : List Effect :=
  trace.dropWhile fun effect => !effect.installs i

/-- How many slots the server was last started with, unless it was stopped since. -/
def runSlots (trace : List Effect) : Option Nat :=
  (trace.find? Effect.boundary).bind fun
    | .started maxClients _ _ => some maxClients
    | _ => none

/-- Effects that leave sessions and runs alone. -/
def Effect.midSession (effect : Effect) : Bool :=
  !effect.boundary && match effect with
    | .installed _ _ _ _ _ => false
    | _ => true

theorem Effect.midSession_iff {effect : Effect} :
    effect.midSession = true ↔ effect.boundary = false ∧ ∀ i, effect.installs i = false := by
  cases effect <;> simp [midSession, boundary, installs]

/-- The log of a session grows with the trace. -/
theorem sessionLog_append {i : Nat} {new trace : List Effect}
    (same : ∀ effect ∈ new, effect.installs i = false) :
    sessionLog i (new ++ trace) = new ++ sessionLog i trace := by
  unfold sessionLog
  rw [List.takeWhile_append_of_pos]
  intro effect member
  rw [same effect member]
  rfl

theorem sessionStart_append {new trace : List Effect} (within : new.all Effect.midSession = true)
    (i : Nat) : sessionStart i (new ++ trace) = sessionStart i trace := by
  unfold sessionStart
  rw [List.dropWhile_append_of_pos]
  intro effect member
  rw [(Effect.midSession_iff.mp (List.all_eq_true.mp within effect member)).2 i]
  rfl

theorem runSlots_append {new trace : List Effect} (within : new.all Effect.midSession = true) :
    runSlots (new ++ trace) = runSlots trace := by
  have none : new.find? Effect.boundary = none := List.find?_eq_none.mpr fun effect member => by
    rw [(Effect.midSession_iff.mp (List.all_eq_true.mp within effect member)).1]
    exact Bool.false_ne_true
  unfold runSlots
  rw [List.find?_append, none]
  rfl

theorem sessionStart_installed (i : Nat) (address : Address) (e : Nat) (sendKey receiveKey : Key)
    (trace : List Effect) : sessionStart i (.installed i address e sendKey receiveKey :: trace) =
      .installed i address e sendKey receiveKey :: trace := by
  simp [sessionStart, Effect.installs]

theorem sessionStart_other {i j : Nat} (other : j ≠ i) (address : Address) (e : Nat)
    (sendKey receiveKey : Key) (trace : List Effect) :
    sessionStart i (.installed j address e sendKey receiveKey :: trace) = sessionStart i trace := by
  simp [sessionStart, Effect.installs, other]

theorem sessionStart_suffix (i : Nat) (trace : List Effect) : sessionStart i trace <:+ trace :=
  List.dropWhile_suffix _

namespace Server

variable {env : Platform} {config : ServerConfig} {s s' : Server} {i e : Nat}

/-- **What one atom can do to the sessions.** -/
inductive SessionStep (env : Platform) (s : Server) : Server → Prop
  | same {s' : Server} (new : List Effect) (trace : s'.trace = new ++ s.trace)
      (within : new.all Effect.midSession = true)
      (settings : s'.maxClients = s.maxClients ∧ s'.running = s.running) : SessionStep env s s'
  | install (i e : Nat) (source : Address) (challenge : ChallengeToken) (sequence : UInt64)
      (call : AeadCall) (responding : Responding env s source e challenge sequence call)
      (found : s.encryptionManager.lookup env source s.time = some e)
      (free : s.findFreeClientIndex = some i) :
      SessionStep env s (installClient s i source challenge.clientID e
        (s.encryptionManager.mapping e).timeout challenge.userData)
  | boundary {s' : Server} (gone : ∀ i, (s'.clients i).connected = false)
      (slots : s'.running = true → runSlots s'.trace = some s'.maxClients) : SessionStep env s s'

theorem LocalChange.midSession {slot : ClientSlot} {effects : List Effect}
    (change : LocalChange config s i slot effects) : effects.all Effect.midSession = true := by
  cases change with
  | push payload sequence => split <;> rfl
  | deliver => split <;> rfl
  | _ => rfl

theorem Atom.sessionStep (inv : Binding env s) (atom : Atom env config s s') :
    SessionStep env s s' := by
  cases atom with
  | arrive reading source data => exact .same [.datagram reading source data] rfl rfl ⟨rfl, rfl⟩
  | micro micro =>
    cases micro with
    | tick | refresh | connectLoopback | disconnectLoopback => exact .same [] rfl rfl ⟨rfl, rfl⟩
    | clock reading => exact .same [.clock reading] rfl rfl ⟨rfl, rfl⟩
    | openRequest source reading data request call =>
      exact .same [.requested source request reading call, .opened .connectToken call] rfl rfl
        ⟨rfl, rfl⟩
    | openPacket source reading data clientIndex e outcome call running head located reads isOpened
        notRequest =>
      obtain ⟨clients, same, -⟩ := applyReading_eq s source reading clientIndex outcome isOpened
        notRequest
      rw [same]
      exact .same [.opened .packet call] rfl rfl ⟨rfl, rfl⟩
    | respond source clientIndex e sequence challengeTokenSequence data packetCall call =>
      exact .same [.responded _ _ _ _, .opened .challengeToken call] rfl rfl ⟨rfl, rfl⟩
    | deny destination key => exact .same [.sent _ _, .sealed _ _] rfl rfl ⟨rfl, rfl⟩
    | ask source request token reading => exact .same [.clock reading] rfl rfl ⟨rfl, rfl⟩
    | grant source request token reading => exact .same [.clock reading] rfl rfl ⟨rfl, rfl⟩
    | issue source request token =>
      exact .same [.sent _ _, .sealed _ _, .challenged _ _ _, .sealed _ _] rfl rfl ⟨rfl, rfl⟩
    | install source e i challenge sequence call responding strangerAddress strangerID found free =>
      exact .install i e source challenge sequence call responding found free
    | send p i e note connected network mapped kind =>
      exact .same (.sent _ _ :: .sealed _ _ :: note) rfl (by cases kind <;> rfl) ⟨rfl, rfl⟩
    | release i e => exact .same [.released i e] rfl rfl ⟨rfl, rfl⟩
    | change i slot effects change => exact .same effects rfl change.midSession ⟨rfl, rfl⟩
    | reset gone =>
      refine .boundary (fun i => ?_) fun running => by cases running
      by_cases small : i < s.maxClients
      · exact gone i small
      · exact inv.beyond i (not_lt.mp small)
    | start maxClients challengeKey reading idle =>
      refine .boundary (fun i => ?_) fun _ => rfl
      have none : s.maxClients = 0 := (inv.idle idle).1
      exact inv.beyond i (none.trans_le (Nat.zero_le i))

/-- **A connected client was installed in its slot**, in this run and with the keys of its mapping. -/
structure InSession (s : Server) : Prop where
  slots : s.running = true → runSlots s.trace = some s.maxClients
  started : ∀ i e, (s.clients i).connected = true → (s.clients i).loopback = false →
    (s.clients i).encryptionIndex = some e →
    ∃ before, sessionStart i s.trace = .installed i (s.clients i).address e
        (s.encryptionManager.mapping e).sendKey (s.encryptionManager.mapping e).receiveKey :: before ∧
      runSlots before = some s.maxClients

theorem InSession.step (inv : InSession s) (binding : Binding env s) (atom : Atom env config s s') :
    InSession s' := by
  have step := atom.sessionStep binding
  refine ⟨fun running => ?_, fun i e connected network mapped => ?_⟩
  · cases step with
    | same new trace within settings =>
      rw [trace, runSlots_append within, settings.1]
      exact inv.slots (settings.2 ▸ running)
    | install i e source challenge sequence call responding => exact inv.slots responding.running
    | boundary gone slots => exact slots running
  · rcases atom.cameFrom binding connected network with
      ⟨connected', network', e', mapped', held⟩ | ⟨e', source, challenge, sequence, call, installing⟩
    · cases (held.session.encryptionIndex.symm.trans mapped).symm.trans mapped'
      obtain ⟨before, isStart, slots⟩ := inv.started i e connected' network' mapped'
      rw [held.session.address, held.sendKey, held.receiveKey]
      cases step with
      | same new trace within settings =>
        rw [trace, sessionStart_append within, settings.1]
        exact ⟨before, isStart, slots⟩
      | install j f source challenge sequence call responding found free =>
        have other : j ≠ i := by
          rintro rfl
          rw [(findFreeClientIndex_eq_some free).2] at connected'
          cases connected'
        rw [installClient_trace, sessionStart_other other]
        exact ⟨before, isStart, slots⟩
      | boundary gone =>
        rw [gone i] at connected
        cases connected
    · obtain rfl := installing.after
      obtain rfl : e' = e := by
        simpa [installClient] using mapped
      refine ⟨s.trace, ?_, inv.slots installing.responding.running⟩
      rw [installClient_trace, sessionStart_installed, installClient_manager]
      simp [installClient, EncryptionManager.set]

theorem InSession.new (address address2 : Address) (time : ℚ) :
    InSession (new address address2 time) where
  slots := fun running => by cases running
  started := fun _ _ connected => by cases connected

end Server

/-! ### Every effect has its reason -/

/-- A private connect token with these keys was opened. -/
def KeysPresented (trace : List Effect) (sendKey receiveKey : Key) : Prop :=
  ∃ call token, .opened .connectToken call ∈ trace ∧ call.token = some token ∧
    token.serverToClientKey = sendKey ∧ token.clientToServerKey = receiveKey

/-- The packets a slot sends under its keys. -/
inductive SlotPacket (i slots : Nat) (sequence : UInt64) (earlier : List Effect) : Packet → Prop
  | keepAlive : SlotPacket i slots sequence earlier
      (.connectionKeepAlive (Int32.ofNat i) (Int32.ofNat slots))
  | disconnect : SlotPacket i slots sequence earlier .connectionDisconnect
  | payload (payload : Bytes) (before : List Effect)
      (submitted : earlier = .submitted i payload sequence :: before) :
      SlotPacket i slots sequence earlier (.connectionPayload payload)

/-- **Why an effect happened**, by what was before it:

* a response is processed when it has been opened under the keys of the mapping, and the challenge
  token it echoes has been opened;
* a client is installed for such a response, under the keys of a private token that was presented;
* a challenge is sealed under the keys of a private token that was presented;
* a slot sends under the keys of the client last installed in it;
* a challenge token is sealed without associated data. -/
def Explained (env : Platform) (config : ServerConfig) : Effect → List Effect → Prop
  | .responded source challengeSequence _ receiveKey, earlier =>
    ∃ call packetCall reading data before sequence challengeData,
      earlier = .opened .challengeToken call :: .opened .packet packetCall ::
          .datagram reading source data :: before ∧ packetCall.key = receiveKey ∧
        Decodes config.protocolID packetCall (.connectionResponse challengeSequence challengeData)
          sequence
  | .installed _ address _ sendKey receiveKey, earlier =>
    KeysPresented earlier sendKey receiveKey ∧ ∃ challengeSequence before,
      earlier = .responded address challengeSequence sendKey receiveKey :: before
  | .sealed (.global p sequence) call, earlier =>
    call = sealPacket env p sequence call.key config.protocolID ∧ (p = .connectionDenied ∨
      (∃ challengeSequence challengeData, p = .connectionChallenge challengeSequence challengeData) ∧
        ∃ receiveKey, KeysPresented earlier call.key receiveKey)
  | .sealed (.client i p sequence) call, earlier =>
    call = sealPacket env p sequence call.key config.protocolID ∧
      ∃ address e receiveKey before slots, sessionStart i earlier =
          .installed i address e call.key receiveKey :: before ∧
        runSlots before = some slots ∧ i < slots ∧ slots ≤ MaxClients ∧
        SlotPacket i slots sequence earlier p
  | .sealed (.challengeToken _ _) call, _ => call.additional = []
  | _, _ => True

namespace Server

variable {env : Platform} {config : ServerConfig} {s s' : Server} {i e : Nat}

theorem Presented.keys {source : Address} {request : ConnectionRequest} {token : ConnectTokenPrivate}
    (presented : Presented s source request token) (provenance : Provenance config s) :
    KeysPresented s.trace token.serverToClientKey token.clientToServerKey := by
  obtain ⟨reading, call, member⟩ := presented.requested
  have accepted := provenance.accepted _ _ _ _ member
  exact ⟨call, token, mem_of_mem_thisRun accepted.opened, accepted.token_eq presented.reads, rfl, rfl⟩

/-- **One atom explains what it shows.** -/
theorem Atom.explained (binding : Binding env s) (provenance : Provenance config s)
    (inv : InSession s) (atom : Atom env config s s')
    (before : Always (Explained env config) s.trace) : Always (Explained env config) s'.trace := by
  cases atom with
  | arrive => exact ⟨trivial, before⟩
  | micro micro =>
    cases micro with
    | tick | refresh | connectLoopback | disconnectLoopback => exact before
    | clock | ask | grant | release | reset => exact ⟨trivial, before⟩
    | openRequest | start => exact ⟨trivial, trivial, before⟩
    | openPacket source reading data clientIndex e outcome call running head located reads isOpened
        notRequest =>
      obtain ⟨clients, same, -⟩ := applyReading_eq s source reading clientIndex outcome isOpened
        notRequest
      rw [same]
      exact ⟨trivial, before⟩
    | respond source clientIndex e sequence challengeTokenSequence data packetCall call located
        packet =>
      obtain ⟨reading, bytes, earlier, head⟩ := packet.head
      refine ⟨⟨call, packetCall, reading, bytes, earlier, sequence, data, ?_, packet.key,
        packet.nonce, packet.decodes⟩, trivial, before⟩
      rw [← head]
      rfl
    | deny destination key running owner => exact ⟨trivial, ⟨rfl, .inl rfl⟩, before⟩
    | issue source request token running presented =>
      refine ⟨trivial, ⟨rfl, .inr ⟨⟨_, _, rfl⟩, token.clientToServerKey, ?_⟩⟩, trivial, rfl, before⟩
      obtain ⟨call, token', member, keys⟩ := presented.keys provenance
      exact ⟨call, token', List.mem_cons_of_mem _ (List.mem_cons_of_mem _ member), keys⟩
    | install source e i challenge sequence call responding strangerAddress strangerID found =>
      have usable := usable_of_equal (EncryptionManager.lookup_eq_some.mp found).2.1
      obtain ⟨source', request, token, origin⟩ := provenance.origin e usable
      have keys := origin.presented.keys provenance
      rw [← origin.sendKey, ← origin.receiveKey] at keys
      obtain ⟨packetCall, reading, data, earlier, head, -⟩ := responding.head
      rw [installClient_trace]
      exact ⟨⟨keys, sequence, _, head⟩, before⟩
    | send p i e note connected network mapped kind =>
      obtain ⟨earlier, isStart, slots⟩ := inv.started i e connected network mapped
      have within : note.all Effect.midSession = true := by cases kind <;> rfl
      rw [← sessionStart_append within i] at isStart
      refine ⟨trivial, ⟨rfl, (s.clients i).address, e, _, earlier, s.maxClients, isStart, slots,
        binding.inUse connected, binding.slots, ?_⟩, ?_⟩
      · cases kind with
        | keepAlive => exact .keepAlive
        | disconnect => exact .disconnect
        | payload payload => exact .payload payload s.trace rfl
      · cases kind with
        | keepAlive | disconnect => exact before
        | payload payload => exact ⟨trivial, before⟩
    | change i slot effects change =>
      refine before.append ?_
      cases change with
      | push payload sequence =>
        split_ifs
        · exact List.forall_mem_singleton.mpr fun _ => trivial
        · exact List.forall_mem_nil _
      | deliver =>
        split
        · exact List.forall_mem_singleton.mpr fun _ => trivial
        · exact List.forall_mem_nil _
      | sendLoopback => exact List.forall_mem_singleton.mpr fun _ => trivial
      | reason | hear | hearLoopback => exact List.forall_mem_nil _

theorem Run.explained {calls : List Call} (quiet : config.NonReentrant)
    (run : Run env config calls s) : Always (Explained env config) s.trace :=
  (Run.along (fun _ => True)
    (fun s => Provenance config s ∧ InSession s ∧ Always (Explained env config) s.trace) quiet
    (fun _ _ _ met => met)
    (fun address address2 time => ⟨.new config address address2 time, .new address address2 time,
      trivial⟩)
    (fun _ _ binding atom _ held => ⟨held.1.step (atom.tokenStep binding),
      held.2.1.step binding atom, atom.explained binding held.1 held.2.1 held.2.2⟩) run trivial).2.2

end Server

end Netcode
