/-
**A server, a client and the network between them.**

The network may drop, duplicate, delay, reorder and re-address datagrams and make up its own: the two
parties are given whatever it likes (`Exchange`). What it cannot do is forge. The keys of the client's
token are known to the two parties only, so that what one of them opens under these keys was sealed
before, by the other one or by itself (`ServerAuthentic`, `ClientAuthentic`).

* `Exchange` — **every interleaving** of the calls of a server and of a client;
* `Exchange.authentic` — what was opened under the keys of the token was sealed by one of the two;
* `sealed_as_packet` — what the server sealed and reads as a packet is that packet.
-/

import Netcode.Client.Connection
import Netcode.Server.Identity
import Netcode.Server.Sessions

namespace Netcode

open Trace

/-! ### What is assumed of the AEAD -/

/-- The calls a client sealed with. -/
def Client.sealedCalls (trace : List ClientEffect) : List AeadCall :=
  trace.filterMap fun
    | .sealed _ _ call => some call
    | _ => none

theorem Client.mem_sealedCalls {call : AeadCall} {trace : List ClientEffect} :
    call ∈ sealedCalls trace ↔ ∃ p n, .sealed p n call ∈ trace := by
  constructor
  · intro member
    obtain ⟨effect, inTrace, isCall⟩ := List.mem_filterMap.mp member
    split at isCall
    · rename_i p n call'
      cases isCall
      exact ⟨p, n, inTrace⟩
    · cases isCall
  · rintro ⟨p, n, member⟩
    exact List.mem_filterMap.mpr ⟨_, member, rfl⟩

/-- A packet key of the token. -/
def ConnectToken.HasKey (token : ConnectToken) (key : Key) : Prop :=
  key = token.clientToServerKey ∨ key = token.serverToClientKey

instance (token : ConnectToken) (key : Key) : Decidable (token.HasKey key) :=
  inferInstanceAs (Decidable (_ ∨ _))

/-- A packet the server opens under a key of the token was sealed before. -/
def authenticAtServer (token : ConnectToken) (client : List ClientEffect) :
    Effect → List Effect → Bool
  | .opened .packet call, earlier =>
    decide (token.HasKey call.key → call ∈ seals earlier ∨ call ∈ Client.sealedCalls client)
  | _, _ => true

/-- A packet the client opens under a key of the token was sealed before. -/
def authenticAtClient (token : ConnectToken) (server : List Effect) :
    ClientEffect → List ClientEffect → Bool
  | .opened _ call, earlier =>
    decide (token.HasKey call.key → call ∈ seals server ∨ call ∈ Client.sealedCalls earlier)
  | _, _ => true

/-- **The AEAD opens only what was sealed**: the packets the server opens under the keys of the
token. -/
def ServerAuthentic (token : ConnectToken) (client : List ClientEffect) (trace : List Effect) : Prop :=
  Always (fun effect earlier => authenticAtServer token client effect earlier = true) trace

/-- **The AEAD opens only what was sealed**: the packets the client opens under the keys of the
token. -/
def ClientAuthentic (token : ConnectToken) (server : List Effect) (trace : List ClientEffect) : Prop :=
  Always (fun effect earlier => authenticAtClient token server effect earlier = true) trace

instance (token : ConnectToken) (client : List ClientEffect) (trace : List Effect) :
    Decidable (ServerAuthentic token client trace) :=
  inferInstanceAs (Decidable (Always _ trace))

instance (token : ConnectToken) (server : List Effect) (trace : List ClientEffect) :
    Decidable (ClientAuthentic token server trace) :=
  inferInstanceAs (Decidable (Always _ trace))

/-- What the other party seals later does no harm. -/
theorem ServerAuthentic.mono {token : ConnectToken} {client client' : List ClientEffect}
    {trace : List Effect} (grown : client <:+ client') (authentic : ServerAuthentic token client trace) :
    ServerAuthentic token client' trace := by
  refine Always.mono (fun effect earlier before => ?_) authentic
  unfold authenticAtServer at before ⊢
  split
  · refine decide_eq_true fun hasKey => ?_
    exact (of_decide_eq_true before hasKey).imp_right
      fun member => (grown.sublist.filterMap _).subset member
  · rfl

theorem ClientAuthentic.mono {token : ConnectToken} {server server' : List Effect}
    {trace : List ClientEffect} (grown : server <:+ server')
    (authentic : ClientAuthentic token server trace) : ClientAuthentic token server' trace := by
  refine Always.mono (fun effect earlier before => ?_) authentic
  unfold authenticAtClient at before ⊢
  split
  · refine decide_eq_true fun hasKey => ?_
    exact (of_decide_eq_true before hasKey).imp_left
      fun member => (grown.sublist.filterMap _).subset member
  · rfl

/-- The keys of the token are its own: no other private token has its server-to-client key with
another client-to-server key. -/
def OwnKeys (token : ConnectToken) (trace : List Effect) : Prop :=
  ∀ sendKey receiveKey, KeysPresented trace sendKey receiveKey →
    sendKey = token.serverToClientKey → receiveKey = token.clientToServerKey

/-- The client-to-server key of the token is not used by a server to send. -/
def KeysApart (token : ConnectToken) (trace : List Effect) : Prop :=
  token.serverToClientKey ≠ token.clientToServerKey ∧
    ∀ sendKey receiveKey, KeysPresented trace sendKey receiveKey → sendKey ≠ token.clientToServerKey

/-- The send and receive keys of the private tokens that were opened. -/
def presentedKeys (trace : List Effect) : List (Key × Key) :=
  trace.filterMap fun
    | .opened .connectToken call =>
      call.token.map fun token => (token.serverToClientKey, token.clientToServerKey)
    | _ => none

theorem mem_presentedKeys {trace : List Effect} {sendKey receiveKey : Key} :
    (sendKey, receiveKey) ∈ presentedKeys trace ↔ KeysPresented trace sendKey receiveKey := by
  constructor
  · intro member
    obtain ⟨effect, inTrace, isKeys⟩ := List.mem_filterMap.mp member
    split at isKeys
    · rename_i call
      obtain ⟨token, isToken, keys⟩ := Option.map_eq_some_iff.mp isKeys
      obtain ⟨isSend, isReceive⟩ := Prod.mk.inj keys
      exact ⟨call, token, inTrace, isToken, isSend, isReceive⟩
    · cases isKeys
  · rintro ⟨call, token, inTrace, isToken, rfl, rfl⟩
    exact List.mem_filterMap.mpr ⟨_, inTrace, Option.map_eq_some_iff.mpr ⟨token, isToken, rfl⟩⟩

instance (token : ConnectToken) (trace : List Effect) : Decidable (OwnKeys token trace) :=
  decidable_of_iff (∀ keys ∈ presentedKeys trace,
    keys.1 = token.serverToClientKey → keys.2 = token.clientToServerKey)
    ⟨fun own _ _ presented => own _ (mem_presentedKeys.mpr presented),
      fun own keys member => own keys.1 keys.2 (mem_presentedKeys.mp member)⟩

instance (token : ConnectToken) (trace : List Effect) : Decidable (KeysApart token trace) :=
  decidable_of_iff (token.serverToClientKey ≠ token.clientToServerKey ∧
    ∀ keys ∈ presentedKeys trace, keys.1 ≠ token.clientToServerKey)
    ⟨fun apart => ⟨apart.1, fun _ _ presented => apart.2 _ (mem_presentedKeys.mpr presented)⟩,
      fun apart => ⟨apart.1, fun keys member => apart.2 keys.1 keys.2 (mem_presentedKeys.mp member)⟩⟩

/-! ### Exchanges -/

/-- **A server and a client on an adversarial network**: their calls in any order, with any
datagrams, as long as nothing is forged under the keys of the token. -/
inductive Exchange (env : Platform) (serverConfig : ServerConfig) (clientConfig : ClientConfig)
    (token : ConnectToken) : Server → Client → Prop
  | new (address address2 : Address) (serverTime clientTime : ℚ) (isFloat : env.IsFloat64 serverTime) :
      Exchange env serverConfig clientConfig token (.new address address2 serverTime)
        (.new clientTime)
  | server {s s' : Server} {c : Client} (before : Exchange env serverConfig clientConfig token s c)
      (call : Server.Call) (forward : Server.Forward env s call)
      (done : Server.step env serverConfig s call = some s')
      (authentic : ServerAuthentic token c.trace s'.trace) :
      Exchange env serverConfig clientConfig token s' c
  | client {s : Server} {c c' : Client} (before : Exchange env serverConfig clientConfig token s c)
      (call : Client.Call) (done : Client.step env clientConfig c call = some c')
      (authentic : ClientAuthentic token s.trace c'.trace) :
      Exchange env serverConfig clientConfig token s c'

/-- Make calls of the two, oldest first, as long as nothing is forged. -/
def executeExchange (env : Platform) (serverConfig : ServerConfig) (clientConfig : ClientConfig)
    (token : ConnectToken) : Server → Client → List (Server.Call ⊕ Client.Call) → Go (Server × Client)
  | s, c, [] => some (s, c)
  | s, c, .inl call :: rest =>
    if Server.Forward env s call then
      (Server.step env serverConfig s call).bind fun s' =>
        if ServerAuthentic token c.trace s'.trace then
          executeExchange env serverConfig clientConfig token s' c rest
        else none
    else none
  | s, c, .inr call :: rest =>
    (Client.step env clientConfig c call).bind fun c' =>
      if ClientAuthentic token s.trace c'.trace then
        executeExchange env serverConfig clientConfig token s c' rest
      else none

section Exchanges

variable {env : Platform} {serverConfig : ServerConfig} {clientConfig : ClientConfig}
  {token : ConnectToken} {s : Server} {c : Client}

theorem Exchange.execute {s' : Server} {c' : Client} {calls : List (Server.Call ⊕ Client.Call)}
    (exchange : Exchange env serverConfig clientConfig token s c)
    (done : executeExchange env serverConfig clientConfig token s c calls = some (s', c')) :
    Exchange env serverConfig clientConfig token s' c' := by
  induction calls generalizing s c with
  | nil =>
    cases done
    exact exchange
  | cons call rest ih =>
    cases call with
    | inl call =>
      unfold executeExchange at done
      split_ifs at done with forward
      obtain ⟨s₁, first, rest⟩ := Option.bind_eq_some_iff.mp done
      split_ifs at rest with authentic
      exact ih (.server exchange call forward first authentic) rest
    | inr call =>
      unfold executeExchange at done
      obtain ⟨c₁, first, rest⟩ := Option.bind_eq_some_iff.mp done
      split_ifs at rest with authentic
      exact ih (.client exchange call first authentic) rest

theorem Exchange.serverRun (exchange : Exchange env serverConfig clientConfig token s c) :
    ∃ calls, Server.Run env serverConfig calls s := by
  induction exchange with
  | new address address2 serverTime clientTime isFloat =>
    exact ⟨[], .new address address2 serverTime isFloat⟩
  | server _ call forward done _ ih =>
    obtain ⟨calls, run⟩ := ih
    exact ⟨call :: calls, .step run call forward done⟩
  | client _ _ _ _ ih => exact ih

theorem Exchange.clientRun (exchange : Exchange env serverConfig clientConfig token s c) :
    ∃ calls, Client.Run env clientConfig calls c := by
  induction exchange with
  | new address address2 serverTime clientTime => exact ⟨[], .new clientTime⟩
  | server _ _ _ _ _ ih => exact ih
  | client _ call done _ ih =>
    obtain ⟨calls, run⟩ := ih
    exact ⟨call :: calls, .step run call done⟩

/-- **What was opened under the keys of the token was sealed by one of the two.** -/
theorem Exchange.authentic (quietServer : serverConfig.NonReentrant)
    (quietClient : clientConfig.NonReentrant)
    (exchange : Exchange env serverConfig clientConfig token s c) :
    ServerAuthentic token c.trace s.trace ∧ ClientAuthentic token s.trace c.trace := by
  induction exchange with
  | new => exact ⟨trivial, trivial⟩
  | server before call forward done authentic ih =>
    obtain ⟨calls, run⟩ := before.serverRun
    have grown := chain_grows _ Server.trace (fun _ _ => Server.Atom.grows)
      (Server.step_chain quietServer (run.binding quietServer) forward done)
    exact ⟨authentic, ih.2.mono grown⟩
  | client before call done authentic ih =>
    obtain ⟨calls, run⟩ := before.clientRun
    have grown := chain_grows _ Client.trace (fun _ _ => Client.Micro.grows)
      (Client.step_chain quietClient (run.settled quietClient) done)
    exact ⟨ih.1.mono grown, authentic⟩

/-- What the server opened under a key of the token was sealed, by the client or by the server. -/
theorem ServerAuthentic.sealed {client : List ClientEffect} {later earlier : List Effect}
    {call : AeadCall}
    (authentic : ServerAuthentic token client (later ++ .opened .packet call :: earlier))
    (hasKey : token.HasKey call.key) : call ∈ seals earlier ∨ call ∈ Client.sealedCalls client :=
  of_decide_eq_true authentic.at hasKey

/-- What the client opened under a key of the token was sealed, by the server or by the client. -/
theorem ClientAuthentic.sealed {server : List Effect} {later earlier : List ClientEffect}
    {source : Address} {call : AeadCall}
    (authentic : ClientAuthentic token server (later ++ .opened source call :: earlier))
    (hasKey : token.HasKey call.key) : call ∈ seals server ∨ call ∈ Client.sealedCalls earlier :=
  of_decide_eq_true authentic.at hasKey

end Exchanges

/-! ### What was sealed -/

theorem SlotPacket.encrypted {i slots : Nat} {sequence : UInt64} {earlier : List Effect} {p : Packet}
    (packet : SlotPacket i slots sequence earlier p) : p.packetType ≠ .request := by
  cases packet <;> simp [Packet.packetType]

/-- **What the server sealed and reads as a packet is that packet**, sent to an address or to a
client. -/
theorem sealed_as_packet {env : Platform} {config : ServerConfig} {trace : List Effect}
    {call : AeadCall} {protocolID n : UInt64} {q : Packet}
    (explained : Always (Explained env config) trace) (member : call ∈ seals trace)
    (decodes : Decodes protocolID call q n) :
    ∃ later kind earlier, trace = later ++ .sealed kind call :: earlier ∧
      Explained env config (.sealed kind call) earlier ∧
      (kind = .global q n ∨ ∃ i, kind = .client i q n) := by
  obtain ⟨kind, isSealed⟩ := mem_seals.mp member
  obtain ⟨later, earlier, rfl⟩ := List.append_of_mem isSealed
  have why := explained.at
  refine ⟨later, kind, earlier, rfl, why, ?_⟩
  cases kind with
  | global p m =>
    obtain ⟨isSeal, kinds⟩ := why
    have encrypted : p.packetType ≠ .request := by
      rcases kinds with rfl | ⟨⟨_, _, rfl⟩, -⟩
      · simp [Packet.packetType]
      · simp [Packet.packetType]
    rw [isSeal] at decodes
    obtain ⟨rfl, rfl⟩ := decodes.of_seal encrypted
    exact .inl rfl
  | client i p m =>
    obtain ⟨isSeal, _, _, _, _, slots, -, -, -, -, packet⟩ := why
    rw [isSeal] at decodes
    obtain ⟨rfl, rfl⟩ := decodes.of_seal packet.encrypted
    exact .inr ⟨i, rfl⟩
  | challengeToken challenge m =>
    -- a challenge token is sealed without the associated data of packets
    obtain ⟨prefixByte, type, additional, -⟩ := decodes.fields
    rw [show call.additional = [] from why] at additional
    simp [packetAdditionalData] at additional

/-- **A packet that is neither a challenge nor a denial was sent to a client**, who had been installed
with its key. -/
theorem sealed_by_slot {env : Platform} {config : ServerConfig} {trace : List Effect}
    {call : AeadCall} {protocolID n : UInt64} {q : Packet}
    (explained : Always (Explained env config) trace) (member : call ∈ seals trace)
    (decodes : Decodes protocolID call q n)
    (toClient : q.packetType ≠ .denied ∧ q.packetType ≠ .challenge) :
    ∃ i slots address e receiveKey later earlier before,
      trace = later ++ .sealed (.client i q n) call :: earlier ∧
        sessionStart i earlier = .installed i address e call.key receiveKey :: before ∧
        .installed i address e call.key receiveKey :: before <:+ trace ∧
        runSlots before = some slots ∧ i < slots ∧ slots ≤ MaxClients ∧
        SlotPacket i slots n earlier q := by
  obtain ⟨later, kind, earlier, isTrace, why, rfl | ⟨i, rfl⟩⟩ :=
    sealed_as_packet explained member decodes
  · obtain ⟨-, rfl | ⟨⟨_, _, rfl⟩, -⟩⟩ := why
    · exact absurd rfl toClient.1
    · exact absurd rfl toClient.2
  obtain ⟨-, address, e, receiveKey, before, slots, isStart, isSlots, small, most, packet⟩ := why
  refine ⟨i, slots, address, e, receiveKey, later, earlier, before, isTrace, isStart, ?_, isSlots, small,
    most, packet⟩
  rw [isTrace, ← isStart]
  exact (sessionStart_suffix i earlier).trans
    ((List.suffix_cons _ _).trans (List.suffix_append later _))

/-- Installed keys are those of a private token that was presented. -/
theorem keysPresented_of_installed {env : Platform} {config : ServerConfig} {trace : List Effect}
    {i e : Nat} {address : Address} {sendKey receiveKey : Key}
    (explained : Always (Explained env config) trace)
    (member : .installed i address e sendKey receiveKey ∈ trace) :
    KeysPresented trace sendKey receiveKey := by
  obtain ⟨later, earlier, rfl⟩ := List.append_of_mem member
  obtain ⟨call, token, isOpened, keys⟩ := explained.at.1
  exact ⟨call, token, List.mem_append_right _ (List.mem_cons_of_mem _ isOpened), keys⟩

/-- The server seals no responses. -/
theorem not_sealed_response {env : Platform} {config : ServerConfig} {trace : List Effect}
    {call : AeadCall} {protocolID challengeSequence n : UInt64}
    {challengeData : FixedBytes challengeTokenBytes}
    (explained : Always (Explained env config) trace) (member : call ∈ seals trace) :
    ¬ Decodes protocolID call (.connectionResponse challengeSequence challengeData) n := by
  intro decodes
  obtain ⟨i, slots, _, _, _, _, _, _, -, -, -, -, -, -, packet⟩ :=
    sealed_by_slot explained member decodes (by simp [Packet.packetType])
  cases packet

/-- What a client sealed in its one connection and reads as a packet is that packet. -/
theorem Client.FirstConnection.sealed_as_packet {env : Platform} {token : ConnectToken} {c : Client}
    {call : AeadCall} {protocolID n : UInt64} {q : Packet} (inv : FirstConnection env token c)
    (member : call ∈ sealedCalls c.trace) (decodes : Decodes protocolID call q n) :
    .sealed q n call ∈ c.trace := by
  obtain ⟨p, m, isSealed⟩ := mem_sealedCalls.mp member
  obtain ⟨encrypted, isSeal, -⟩ := inv.seals p m call isSealed
  rw [isSeal] at decodes
  obtain ⟨rfl, rfl⟩ := decodes.of_seal encrypted
  exact isSealed

end Netcode
