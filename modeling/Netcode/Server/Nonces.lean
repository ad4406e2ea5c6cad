/-
**The server never seals twice with one key and nonce.**

Three counters give out nonces. `globalSequence` starts at `2 ^ 63` and numbers challenge and denied
packets under the key of any token; `challengeSequence` numbers challenge tokens under the challenge
key; each slot numbers the packets of its client under the send key of its mapping, from zero on.
Within a slot's session the counter only grows, and a key never gets a second session as long as its
token is used once. That holds when datagrams arrive one at a time: a request is then read and
looked up in the history at the same time of day (`Run.freshRequests`).

* `Nonces` — the invariant that ties the counters to what was sealed;
* `server_nonces_unique` — **no key and nonce is used twice in a run**.
-/

import Netcode.Server.SlotMapping
import Netcode.Server.Tokens

namespace Netcode

open Trace Relation

/-! ### Datagrams that arrive one at a time -/

/-- Every datagram is read with the time that was just taken. -/
def Prompt (trace : List Effect) : Prop :=
  Always (fun effect earlier => ∀ reading source data, effect = .datagram reading source data →
    ∃ before, earlier = .clock reading :: before) trace

/-- `Update` finds no datagram: all of them come through `ProcessPacket`. -/
def Server.Call.OneAtATime (call : Server.Call) : Prop :=
  ∀ time reading batch, call = .update time reading batch → batch = []

theorem Prompt.grown {new trace : List Effect} (prompt : Prompt trace)
    (none : ∀ reading source data, .datagram reading source data ∉ new) :
    Prompt (new ++ trace) :=
  prompt.append fun _ member _ reading source data isDatagram =>
    absurd (isDatagram ▸ member) (none reading source data)

theorem FreshRequests.grown {new trace : List Effect} (fresh : FreshRequests trace)
    (none : ∀ source request reading call, .requested source request reading call ∉ new) :
    FreshRequests (new ++ trace) := by
  refine fresh.append fun effect member earlier request isRequest => ?_
  cases effect with
  | requested source request' reading call => exact absurd member (none source request' reading call)
  | _ => cases isRequest

theorem ClockForward.of_suffix {before after : List Effect} (suffix : before <:+ after)
    (forward : ClockForward after) : ClockForward before :=
  List.Pairwise.sublist (suffix.sublist.filterMap _) forward

namespace Server

variable {env : Platform} {config : ServerConfig} {s s' : Server} {calls : List Call}

theorem prompt_micros (chain : ReflTransGen (Micro env config) s s') (prompt : Prompt s.trace) :
    Prompt s'.trace := by
  induction chain with
  | refl => exact prompt
  | tail _ last ih =>
    obtain ⟨new, trace, none⟩ := last.shows
    rw [trace]
    exact ih.grown none

theorem Run.prompt (quiet : config.NonReentrant) (run : Run env config calls s)
    (single : ∀ call ∈ calls, call.OneAtATime) : Prompt s.trace := by
  induction run with
  | new => exact trivial
  | @step calls s s' before call forward done ih =>
    have inv := before.binding quiet
    have prompt := ih fun call member => single call (List.mem_cons_of_mem _ member)
    by_cases alone : call.datagrams = []
    · exact prompt_micros (step_micros quiet inv forward alone done) prompt
    · cases call with
      | processPacket source data currentTimestamp reading =>
        obtain ⟨t, returns, chain⟩ := processPacket_leads quiet inv source data currentTimestamp
          reading
        rw [done] at returns
        cases returns
        refine prompt_micros chain ⟨fun reading' source' data' isDatagram => ?_, nofun, prompt⟩
        cases isDatagram
        exact ⟨s.trace, rfl⟩
      | update time reading batch =>
        exact absurd (single _ List.mem_cons_self time reading batch rfl) alone
      | _ => exact absurd rfl alone

/-- The clock has not gone past the reading a datagram is read with. -/
theorem clock_le_of_prompt {reading : UInt64} {source : Address} {data : Bytes}
    {earlier : List Effect} (forward : ClockForward (.datagram reading source data :: earlier))
    (prompt : Prompt (.datagram reading source data :: earlier)) :
    ∀ now ∈ clockReadings earlier, now ≤ reading := by
  obtain ⟨before, rfl⟩ := prompt.1 reading source data rfl
  have ordered : (reading :: clockReadings before).Pairwise (· ≥ ·) := forward
  intro now member
  rcases List.mem_cons.mp (show now ∈ reading :: clockReadings before from member) with rfl | old
  · exact UInt64.le_refl _
  · exact (List.pairwise_cons.mp ordered).1 now old

/-- **Datagrams that arrive one at a time are not looked up after their expiry.** -/
theorem Run.freshRequests (quiet : config.NonReentrant) (run : Run env config calls s)
    (forward : ClockForward s.trace) (prompt : Prompt s.trace) : FreshRequests s.trace := by
  refine Run.along (fun trace => ClockForward trace ∧ Prompt trace) (fun s => FreshRequests s.trace)
    quiet (fun _ _ suffix met => ⟨met.1.of_suffix suffix, met.2.of_suffix suffix⟩)
    (fun _ _ _ => trivial) (fun t t' binding atom met fresh => ?_) run ⟨forward, prompt⟩
  cases atom.tokenStep binding with
  | quiet quiet =>
    obtain ⟨new, trace, noToken⟩ := quiet.trace
    rw [trace]
    exact fresh.grown fun source request reading call member =>
      List.any_eq_false.mp noToken _ member rfl
  | openRequest source reading data request call key window running head reads =>
    have unexpired : reading < request.connectTokenExpireTimestamp :=
      (accepted_of_reads (s := t.record (.opened .connectToken call)) reads
        List.mem_cons_self).unexpired
    obtain ⟨earlier, isTrace⟩ := head
    refine ⟨fun request' isRequest now member => ?_, nofun, fresh⟩
    cases isRequest
    have old : now ∈ clockReadings t.trace :=
      ((List.takeWhile_sublist _).filterMap _).subset member
    have suffix : t.trace <:+ ((t.record (.opened .connectToken call)).record
        (.requested source request reading call)).trace :=
      (List.suffix_cons _ _).trans (List.suffix_cons _ _)
    have forward := met.1.of_suffix suffix
    have prompt : Prompt t.trace := met.2.of_suffix suffix
    rw [isTrace] at old forward prompt
    exact UInt64.lt_of_le_of_lt (clock_le_of_prompt forward prompt now old) unexpired
  | ask | grant | install => exact ⟨nofun, fresh⟩
  | boundary effect new isBoundary noToken trace entries manager =>
    rw [trace]
    refine ⟨fun request isRequest => ?_, fresh.grown fun source request reading call member =>
      List.any_eq_false.mp noToken _ member rfl⟩
    cases effect with
    | requested => cases isBoundary
    | _ => cases isRequest

end Server

/-! ### What was sealed -/

def SealKind.isGlobal : SealKind → Bool
  | .global _ _ => true
  | _ => false

def SealKind.isClient : SealKind → Bool
  | .client _ _ _ => true
  | _ => false

def SealKind.isChallengeToken : SealKind → Bool
  | .challengeToken _ _ => true
  | _ => false

/-- The AEAD calls by which the server sealed something. -/
def seals (trace : List Effect) : List AeadCall :=
  trace.filterMap fun
    | .sealed _ call => some call
    | _ => none

/-- How often the server sealed something of one kind. -/
def sealCount (kind : SealKind → Bool) (trace : List Effect) : Nat :=
  trace.countP fun
    | .sealed sealed _ => kind sealed
    | _ => false

/-- Fewer than `2 ^ 63` packets and tokens of each kind are sealed in each run. -/
def FewPackets (trace : List Effect) : Prop :=
  ∀ earlier, earlier <:+ trace →
    sealCount SealKind.isGlobal (thisRun earlier) < 2 ^ 63 ∧
      sealCount SealKind.isClient (thisRun earlier) < 2 ^ 63 ∧
      sealCount SealKind.isChallengeToken (thisRun earlier) < 2 ^ 63

theorem FewPackets.of_suffix {before after : List Effect} (suffix : before <:+ after)
    (few : FewPackets after) : FewPackets before :=
  fun earlier within => few earlier (within.trans suffix)

/-- A short trace has few packets. -/
theorem FewPackets.of_length {trace : List Effect} (short : trace.length < 2 ^ 63) :
    FewPackets trace := by
  intro earlier suffix
  have bound : ∀ kind, sealCount kind (thisRun earlier) < 2 ^ 63 := fun kind =>
    calc sealCount kind (thisRun earlier) ≤ (thisRun earlier).length := List.countP_le_length
      _ ≤ earlier.length := (List.takeWhile_sublist _).length_le
      _ ≤ trace.length := suffix.length_le
      _ < 2 ^ 63 := short
  exact ⟨bound _, bound _, bound _⟩

/-- The challenge keys of the runs. -/
def challengeKeys (trace : List Effect) : List Key :=
  trace.filterMap fun
    | .started _ key _ => some key
    | _ => none

/-- The challenge key of a run is not the send key of an issued token. -/
def ChallengeKeyApart (issued : AeadCall → Prop) (trace : List Effect) : Prop :=
  ∀ key ∈ challengeKeys trace, ∀ call token, issued call → call.token = some token →
    token.serverToClientKey ≠ key

theorem ChallengeKeyApart.of_list {calls : List AeadCall} {trace : List Effect}
    (apart : ∀ key ∈ challengeKeys trace, ∀ call ∈ calls,
      call.token.map (·.serverToClientKey) ≠ some key) :
    ChallengeKeyApart (· ∈ calls) trace := by
  intro key isKey call token isCall isToken same
  refine apart key isKey call isCall ?_
  rw [isToken, Option.map_some, same]

/-- No effect seals with a key and nonce that were used before in its run. -/
def NoncesUnique (trace : List Effect) : Prop :=
  Always (fun effect earlier => ∀ kind call, effect = .sealed kind call →
    ∀ kind' call', .sealed kind' call' ∈ thisRun earlier →
      call.key = call'.key → call.nonce ≠ call'.nonce) trace

/-- Effects the counters have to do with: a seal, an installation, the start or end of a run. -/
def Effect.sealEvent : Effect → Bool
  | .sealed _ _ => true
  | .installed _ _ _ _ _ => true
  | effect => effect.boundary

theorem Effect.inside_of_noSeal {effect : Effect} (quiet : effect.sealEvent = false) :
    effect.boundary = false := by
  cases effect <;> first | rfl | exact quiet

namespace Server

/-- Slot `i` has a client on the network, to which it sends under `key`. -/
structure Sends (s : Server) (i : Nat) (key : Key) : Prop where
  connected : (s.clients i).connected = true
  network : (s.clients i).loopback = false
  mapped : ∃ e, (s.clients i).encryptionIndex = some e ∧ (s.encryptionManager.mapping e).sendKey = key

/-- The send key of a token that was presented in this run. -/
def Presents (s : Server) (key : Key) : Prop :=
  ∃ source request token, Presented s source request token ∧ token.serverToClientKey = key

/-- A client was installed with this send key in this run. -/
def Installed (s : Server) (key : Key) : Prop :=
  ∃ i address e receiveKey, .installed i address e key receiveKey ∈ thisRun s.trace

/-- **What one atom can do to the counters.** -/
inductive SealStep (env : Platform) (config : ServerConfig) (s : Server) : Server → Prop
  | quiet {s' : Server} (new : List Effect) (trace : s'.trace = new ++ s.trace)
      (noSeal : new.any Effect.sealEvent = false)
      (settings : s'.address = s.address ∧ s'.address2 = s.address2 ∧ s'.running = s.running)
      (counters : s'.globalSequence = s.globalSequence ∧
        s'.challengeSequence = s.challengeSequence ∧ s'.challengeKey = s.challengeKey)
      (sends : ∀ i key, Sends s' i key →
        Sends s i key ∧ (s'.clients i).sequence = (s.clients i).sequence) :
      SealStep env config s s'
  | sendGlobal (p : Packet) (destination : Address) (key : Key) (running : s.running = true)
      (presents : Presents s key) :
      SealStep env config s (sendGlobalPacket env config s p destination key)
  | issue (source : Address) (request : ConnectionRequest) (token : ConnectTokenPrivate)
      (running : s.running = true) (presented : Presented s source request token) :
      SealStep env config s (sendChallenge env config s source request token)
  | install (source : Address) (e i : Nat) (clientID : UInt64) (userData : UserData)
      (found : s.encryptionManager.lookup env source s.time = some e)
      (unbound : (s.encryptionManager.mapping e).clientIndex = none)
      (vacant : (s.clients i).connected = false) :
      SealStep env config s (installClient s i source clientID e
        (s.encryptionManager.mapping e).timeout userData)
  | send (p : Packet) (i e : Nat) (note : List Effect) (noSeal : note.any Effect.sealEvent = false)
      (connected : (s.clients i).connected = true) (network : (s.clients i).loopback = false)
      (mapped : (s.clients i).encryptionIndex = some e) :
      SealStep env config s (writeToClient env config
        { s with
          encryptionManager := s.encryptionManager.access e s.time
          trace := note ++ s.trace }
        p i (s.encryptionManager.mapping e).sendKey)
  | boundary {s' : Server} (effect : Effect) (new : List Effect)
      (trace : s'.trace = effect :: (new ++ s.trace)) (isBoundary : effect.boundary = true)
      (noSeal : new.any Effect.sealEvent = false)
      (counters : s'.globalSequence = globalSequenceStart ∧ s'.challengeSequence = 0)
      (known : s'.running = true →
        ∃ maxClients reading, effect = .started maxClients s'.challengeKey reading)
      (sends : ∀ i key, ¬ Sends s' i key) : SealStep env config s s'

variable {env : Platform} {config : ServerConfig} {s s' : Server}

/-- A client that was there before sent under the same key. -/
theorem Sends.of_held {i e : Nat} {key : Key} (sends : Sends s' i key)
    (connected : (s.clients i).connected = true) (network : (s.clients i).loopback = false)
    (mapped : (s.clients i).encryptionIndex = some e) (held : SameHold s s' i e) : Sends s i key := by
  obtain ⟨e', mapped', isKey⟩ := sends.mapped
  rw [held.session.encryptionIndex, mapped] at mapped'
  cases mapped'
  exact ⟨connected, network, e, mapped, held.sendKey.symm.trans isKey⟩

/-- A client whose slot shows no installation was there before. -/
theorem Atom.sendsFrom (inv : Binding env s) (atom : Atom env config s s') {new : List Effect}
    (trace : s'.trace = new ++ s.trace) (noSeal : new.any Effect.sealEvent = false) {i : Nat}
    {key : Key} (sends : Sends s' i key) : Sends s i key := by
  rcases atom.cameFrom inv sends.connected sends.network with
    ⟨connected, network, e, mapped, held⟩ | ⟨e, source, challenge, sequence, call, installing⟩
  · exact sends.of_held connected network mapped held
  · rw [installing.after, installClient_trace, ← List.singleton_append] at trace
    rw [← List.append_cancel_right trace] at noSeal
    cases noSeal

theorem LocalChange.noSeal {i : Nat} {slot : ClientSlot} {effects : List Effect}
    (change : LocalChange config s i slot effects) : effects.any Effect.sealEvent = false := by
  cases change with
  | push payload sequence => split <;> rfl
  | deliver => split <;> rfl
  | _ => rfl

/-- Only a loopback client's sequence number moves without a packet. -/
theorem LocalChange.sequence {i : Nat} {slot : ClientSlot} {effects : List Effect}
    (change : LocalChange config s i slot effects) (network : slot.loopback = false) :
    slot.sequence = (s.clients i).sequence := by
  cases change with
  | sendLoopback payload connected loopback => exact absurd (loopback.symm.trans network) nofun
  | _ => rfl

theorem Atom.sealStep (inv : Binding env s) (provenance : Provenance config s)
    (atom : Atom env config s s') : SealStep env config s s' := by
  have from_ : ∀ new, s'.trace = new ++ s.trace → new.any Effect.sealEvent = false →
      (∀ i, (s'.clients i).connected = true → (s'.clients i).loopback = false →
        (s'.clients i).sequence = (s.clients i).sequence) →
      ∀ i key, Sends s' i key →
        Sends s i key ∧ (s'.clients i).sequence = (s.clients i).sequence :=
    fun new trace noSeal sequence i key sends =>
      ⟨atom.sendsFrom inv trace noSeal sends, sequence i sends.connected sends.network⟩
  cases atom with
  | arrive reading source data =>
    exact .quiet [.datagram reading source data] rfl rfl ⟨rfl, rfl, rfl⟩ ⟨rfl, rfl, rfl⟩
      (from_ [_] rfl rfl fun _ _ _ => rfl)
  | micro micro =>
    cases micro with
    | tick | refresh =>
      exact .quiet [] rfl rfl ⟨rfl, rfl, rfl⟩ ⟨rfl, rfl, rfl⟩ (from_ [] rfl rfl fun _ _ _ => rfl)
    | clock reading =>
      exact .quiet [.clock reading] rfl rfl ⟨rfl, rfl, rfl⟩ ⟨rfl, rfl, rfl⟩
        (from_ [_] rfl rfl fun _ _ _ => rfl)
    | openRequest source reading data request call =>
      exact .quiet [.requested source request reading call, .opened .connectToken call] rfl rfl
        ⟨rfl, rfl, rfl⟩ ⟨rfl, rfl, rfl⟩ (from_ [_, _] rfl rfl fun _ _ _ => rfl)
    | openPacket source reading data clientIndex e outcome call running head located reads isOpened
        notRequest =>
      obtain ⟨clients, same, windows⟩ := applyReading_eq s source reading clientIndex outcome
        isOpened notRequest
      rw [same] at from_ ⊢
      refine .quiet [.opened .packet call] rfl rfl ⟨rfl, rfl, rfl⟩ ⟨rfl, rfl, rfl⟩
        (from_ [_] rfl rfl fun i _ _ => ?_)
      obtain ⟨window, isSlot⟩ := windows i
      show (clients i).sequence = _
      rw [isSlot]
    | respond source clientIndex e sequence challengeTokenSequence data packetCall call =>
      exact .quiet [.responded _ _ _ _, .opened .challengeToken call] rfl rfl
        ⟨rfl, rfl, rfl⟩ ⟨rfl, rfl, rfl⟩ (from_ [_, _] rfl rfl fun _ _ _ => rfl)
    | deny destination key running owner =>
      refine .sendGlobal .connectionDenied destination key running ?_
      rcases owner with ⟨request, token, presented, isKey⟩ | ⟨e, found, isKey⟩
      · exact ⟨destination, request, token, presented, isKey.symm⟩
      · obtain ⟨source, request, token, origin⟩ := provenance.origin e
          (usable_of_equal (EncryptionManager.lookup_eq_some.mp found).2.1)
        exact ⟨source, request, token, origin.presented, by rw [isKey, origin.sendKey]⟩
    | ask source request token reading =>
      exact .quiet [.clock reading] rfl rfl ⟨rfl, rfl, rfl⟩ ⟨rfl, rfl, rfl⟩
        (from_ [_] rfl rfl fun _ _ _ => rfl)
    | grant source request token reading =>
      exact .quiet [.clock reading] rfl rfl ⟨rfl, rfl, rfl⟩ ⟨rfl, rfl, rfl⟩
        (from_ [_] rfl rfl fun _ _ _ => rfl)
    | issue source request token running presented => exact .issue source request token running presented
    | install source e i challenge sequence call responding strangerAddress strangerID found vacant =>
      exact .install source e i _ _ found
        (inv.stranger strangerAddress (EncryptionManager.lookup_eq_some.mp found).2.1)
        (findFreeClientIndex_eq_some vacant).2
    | send p i e note connected network mapped kind =>
      exact .send p i e note (by cases kind <;> rfl) connected network mapped
    | release i e =>
      refine .quiet [.released i e] rfl rfl ⟨rfl, rfl, rfl⟩ ⟨rfl, rfl, rfl⟩
        (from_ [_] rfl rfl fun j connected _ => ?_)
      by_cases here : j = i
      · subst here
        rw [releaseClient_slot] at connected
        cases connected
      · rw [releaseClient_others s i e here]
    | change i slot effects change =>
      refine .quiet effects rfl change.noSeal ⟨rfl, rfl, rfl⟩ ⟨rfl, rfl, rfl⟩
        (from_ effects rfl change.noSeal fun j _ network => ?_)
      by_cases here : j = i
      · subst here
        simp only [setClient, Function.update_self] at network ⊢
        exact change.sequence network
      · simp only [setClient, Function.update_of_ne here]
    | connectLoopback i clientID userData =>
      refine .quiet [] rfl rfl ⟨rfl, rfl, rfl⟩ ⟨rfl, rfl, rfl⟩
        (from_ [] rfl rfl fun j _ network => ?_)
      by_cases here : j = i
      · subst here
        simp [setClient, loopbackSlot] at network
      · simp only [setClient, Function.update_of_ne here]
    | disconnectLoopback i =>
      refine .quiet [] rfl rfl ⟨rfl, rfl, rfl⟩ ⟨rfl, rfl, rfl⟩
        (from_ [] rfl rfl fun j connected _ => ?_)
      by_cases here : j = i
      · subst here
        simp [resetClientSlot, setClient, clearedSlot] at connected
      · simp only [resetClientSlot, setClient, Function.update_of_ne here]
    | reset gone =>
      refine .boundary .stopped [] rfl rfl rfl ⟨rfl, rfl⟩ (by simp [resetServer])
        fun i key sends => ?_
      have connected : (s.clients i).connected = true := sends.connected
      rw [gone i (inv.inUse connected)] at connected
      cases connected
    | start maxClients challengeKey reading idle =>
      refine .boundary (.started maxClients challengeKey reading) [.clock reading] rfl rfl rfl
        ⟨rfl, rfl⟩ (fun _ => ⟨maxClients, reading, rfl⟩) fun i key sends => ?_
      have connected : (s.clients i).connected = true := sends.connected
      rw [inv.running connected] at idle
      cases idle

/-! ### The counters are ahead of every seal -/

/-- **What the counters say about the seals of the run.** -/
structure Nonces (s : Server) : Prop where
  known : s.running = true → ∃ maxClients reading,
    .started maxClients s.challengeKey reading ∈ s.trace
  globals : s.globalSequence.toNat = 2 ^ 63 + sealCount SealKind.isGlobal (thisRun s.trace)
  challenges : s.challengeSequence.toNat = sealCount SealKind.isChallengeToken (thisRun s.trace)
  /-- A client's key was installed, is no other client's, and its packets are counted. -/
  clients : ∀ i key, Sends s i key → Installed s key ∧ (∀ j, Sends s j key → j = i) ∧
    (s.clients i).sequence.toNat ≤ sealCount SealKind.isClient (thisRun s.trace)
  globalSeals : ∀ p n call, .sealed (.global p n) call ∈ thisRun s.trace →
    call.nonce = packetNonce n ∧ 2 ^ 63 ≤ n.toNat ∧ n.toNat < s.globalSequence.toNat ∧
      Presents s call.key
  challengeSeals : ∀ token n call, .sealed (.challengeToken token n) call ∈ thisRun s.trace →
    call.key = s.challengeKey ∧ call.nonce = packetNonce n ∧ n.toNat < s.challengeSequence.toNat
  clientSeals : ∀ i p n call, .sealed (.client i p n) call ∈ thisRun s.trace →
    call.nonce = packetNonce n ∧ n.toNat < 2 ^ 63 ∧ Installed s call.key ∧
      ∀ j, Sends s j call.key → n.toNat < (s.clients j).sequence.toNat
  unique : NoncesUnique s.trace

theorem Presents.grown {key : Key} (presents : Presents s key)
    (addresses : s'.address = s.address ∧ s'.address2 = s.address2)
    (grown : thisRun s.trace ⊆ thisRun s'.trace) : Presents s' key := by
  obtain ⟨source, request, token, presented, isKey⟩ := presents
  exact ⟨source, request, token, presented.grown addresses grown, isKey⟩

theorem Installed.grown {key : Key} (installed : Installed s key)
    (grown : thisRun s.trace ⊆ thisRun s'.trace) : Installed s' key := by
  obtain ⟨i, address, e, receiveKey, member⟩ := installed
  exact ⟨i, address, e, receiveKey, grown member⟩

theorem sealCount_append (kind : SealKind → Bool) (new trace : List Effect) :
    sealCount kind (new ++ trace) = sealCount kind new + sealCount kind trace :=
  List.countP_append

theorem sealCount_eq_zero (kind : SealKind → Bool) {new : List Effect}
    (noSeal : new.any Effect.sealEvent = false) : sealCount kind new = 0 := by
  refine List.countP_eq_zero.mpr fun effect member => ?_
  have quiet := List.any_eq_false.mp noSeal effect member
  cases effect with
  | sealed => exact absurd rfl quiet
  | _ => exact nofun

theorem Nonces.new (address address2 : Address) (time : ℚ) :
    Nonces (Server.new address address2 time) :=
  ⟨nofun, rfl, rfl, fun _ _ sends => absurd sends.connected nofun, nofun, nofun, nofun, trivial⟩

/-- A step that seals nothing and installs nobody. -/
theorem Nonces.quiet (inv : Nonces s) {new : List Effect} (trace : s'.trace = new ++ s.trace)
    (noSeal : new.any Effect.sealEvent = false)
    (settings : s'.address = s.address ∧ s'.address2 = s.address2 ∧ s'.running = s.running)
    (counters : s'.globalSequence = s.globalSequence ∧
      s'.challengeSequence = s.challengeSequence ∧ s'.challengeKey = s.challengeKey)
    (sends : ∀ i key, Sends s' i key →
      Sends s i key ∧ (s'.clients i).sequence = (s.clients i).sequence) : Nonces s' := by
  have inside : ∀ effect ∈ new, effect.boundary = false := fun effect member =>
    Effect.inside_of_noSeal (by simpa using List.any_eq_false.mp noSeal effect member)
  have run : thisRun s'.trace = new ++ thisRun s.trace := by rw [trace, thisRun_append inside]
  have grown : thisRun s.trace ⊆ thisRun s'.trace := by
    rw [run]
    exact List.subset_append_right _ _
  have old : ∀ kind call, .sealed kind call ∈ thisRun s'.trace →
      .sealed kind call ∈ thisRun s.trace := by
    intro kind call member
    rw [run] at member
    exact (List.mem_append.mp member).resolve_left fun isNew =>
      List.any_eq_false.mp noSeal _ isNew rfl
  have count : ∀ kind, sealCount kind (thisRun s'.trace) = sealCount kind (thisRun s.trace) := by
    intro kind
    rw [run, sealCount_append, sealCount_eq_zero kind noSeal, Nat.zero_add]
  obtain ⟨global, challenge, key⟩ := counters
  refine ⟨fun running => ?_, ?_, ?_, fun i key' held => ?_, fun p n call member => ?_,
    fun token n call member => ?_, fun i p n call member => ?_, ?_⟩
  · obtain ⟨maxClients, reading, member⟩ := inv.known (settings.2.2 ▸ running)
    rw [key, trace]
    exact ⟨maxClients, reading, List.mem_append_right _ member⟩
  · rw [global, count]
    exact inv.globals
  · rw [challenge, count]
    exact inv.challenges
  · obtain ⟨heldBefore, sequence⟩ := sends i key' held
    obtain ⟨installed, alone, bounded⟩ := inv.clients i key' heldBefore
    rw [sequence, count]
    exact ⟨installed.grown grown, fun j other => alone j (sends j key' other).1, bounded⟩
  · obtain ⟨nonce, large, less, presents⟩ := inv.globalSeals p n call (old _ _ member)
    exact ⟨nonce, large, global ▸ less,
      presents.grown ⟨settings.1, settings.2.1⟩ grown⟩
  · obtain ⟨isKey, nonce, less⟩ := inv.challengeSeals token n call (old _ _ member)
    exact ⟨isKey.trans key.symm, nonce, challenge ▸ less⟩
  · obtain ⟨nonce, small, installed, less⟩ := inv.clientSeals i p n call (old _ _ member)
    refine ⟨nonce, small, installed.grown grown, fun j held => ?_⟩
    obtain ⟨heldBefore, sequence⟩ := sends j call.key held
    rw [sequence]
    exact less j heldBefore
  · rw [trace]
    refine inv.unique.append fun effect member earlier kind call isSealed => ?_
    rw [isSealed] at member
    exact absurd rfl (List.any_eq_false.mp noSeal _ member)

section Seals

variable {issued : AeadCall → Prop} {key : Key}

theorem Installed.presents (ledger : Ledger env s) (installed : Installed s key) :
    Presents s key := by
  obtain ⟨i, address, e, receiveKey, member⟩ := installed
  obtain ⟨source, request, token, presented, isKey, -⟩ := ledger.consumed i address e key receiveKey
    member
  exact ⟨source, request, token, presented, isKey⟩

theorem Presents.ne_challengeKey (presents : Presents s key) (inv : Nonces s)
    (running : s.running = true) (provenance : Provenance config s)
    (only : OnlyIssued issued s.trace) (apart : ChallengeKeyApart issued s.trace) :
    key ≠ s.challengeKey := by
  obtain ⟨source, request, token, presented, rfl⟩ := presents
  obtain ⟨reading, call, member⟩ := presented.requested
  obtain ⟨maxClients, started, isStarted⟩ := inv.known running
  have accepted := provenance.accepted _ _ _ _ member
  exact apart s.challengeKey (List.mem_filterMap.mpr ⟨_, isStarted, rfl⟩) call token
    (accepted.isIssued only) (accepted.token_eq presented.reads)

/-- The seals of a run after one more seal. -/
theorem mem_seal_cons {kind kind' : SealKind} {call call' : AeadCall} {new trace : List Effect}
    (noSeal : new.any Effect.sealEvent = false)
    (member : .sealed kind' call' ∈ new ++ .sealed kind call :: trace) :
    kind' = kind ∧ call' = call ∨ .sealed kind' call' ∈ trace := by
  rcases List.mem_append.mp member with isNew | rest
  · exact absurd rfl (List.any_eq_false.mp noSeal _ isNew)
  · rcases List.mem_cons.mp rest with here | old
    · injection here with isKind isCall
      exact .inl ⟨isKind, isCall⟩
    · exact .inr old

theorem sealCount_cons (k : SealKind → Bool) {kind : SealKind} {call : AeadCall}
    (new : List Effect) {trace : List Effect} (noSeal : new.any Effect.sealEvent = false) :
    sealCount k (new ++ .sealed kind call :: trace) =
      sealCount k trace + if k kind then 1 else 0 := by
  rw [sealCount_append, sealCount_eq_zero k noSeal, Nat.zero_add]
  exact List.countP_cons

/-- How the counters after a step bound the nonce it sealed with. -/
def SealFits (s s' : Server) (call : AeadCall) : SealKind → Prop
  | .global _ n => call.nonce = packetNonce n ∧ 2 ^ 63 ≤ n.toNat ∧
      n.toNat < s'.globalSequence.toNat ∧ Presents s call.key
  | .challengeToken _ n => call.key = s.challengeKey ∧ call.nonce = packetNonce n ∧
      n.toNat < s'.challengeSequence.toNat
  | .client _ _ n => call.nonce = packetNonce n ∧ n.toNat < 2 ^ 63 ∧ Installed s call.key ∧
      ∀ j, Sends s' j call.key → n.toNat < (s'.clients j).sequence.toNat

/-- **A step that seals once**, with a nonce no earlier seal of this run used with that key. -/
theorem Nonces.sealed (inv : Nonces s) (new : List Effect) (kind : SealKind) {call : AeadCall}
    (trace : s'.trace = new ++ .sealed kind call :: s.trace)
    (noSeal : new.any Effect.sealEvent = false)
    (settings : s'.address = s.address ∧ s'.address2 = s.address2 ∧ s'.running = s.running ∧
      s'.challengeKey = s.challengeKey)
    (global : s'.globalSequence.toNat =
      s.globalSequence.toNat + if kind.isGlobal then 1 else 0)
    (challenge : s'.challengeSequence.toNat =
      s.challengeSequence.toNat + if kind.isChallengeToken then 1 else 0)
    (sends : ∀ i key, Sends s' i key → Sends s i key ∧
      (s.clients i).sequence.toNat ≤ (s'.clients i).sequence.toNat ∧
      (s'.clients i).sequence.toNat ≤
        (s.clients i).sequence.toNat + if kind.isClient then 1 else 0)
    (fits : SealFits s s' call kind)
    (fresh : ∀ kind' call', .sealed kind' call' ∈ thisRun s.trace →
      call.key = call'.key → call.nonce ≠ call'.nonce) : Nonces s' := by
  have inside : ∀ effect ∈ new, effect.boundary = false := fun effect member =>
    Effect.inside_of_noSeal (by simpa using List.any_eq_false.mp noSeal effect member)
  have run : thisRun s'.trace = new ++ .sealed kind call :: thisRun s.trace := by
    rw [trace, thisRun_append inside, thisRun_cons rfl]
  have grown : thisRun s.trace ⊆ thisRun s'.trace := by
    rw [run]
    exact fun _ member => List.mem_append_right _ (List.mem_cons_of_mem _ member)
  have count : ∀ k, sealCount k (thisRun s'.trace) =
      sealCount k (thisRun s.trace) + if k kind then 1 else 0 := by
    intro k
    rw [run, sealCount_cons k new noSeal]
  have seals_ : ∀ {kind' call'}, .sealed kind' call' ∈ thisRun s'.trace →
      kind' = kind ∧ call' = call ∨ .sealed kind' call' ∈ thisRun s.trace :=
    fun member => mem_seal_cons noSeal (run ▸ member)
  have addresses : s'.address = s.address ∧ s'.address2 = s.address2 := ⟨settings.1, settings.2.1⟩
  refine ⟨fun running => ?_, ?_, ?_, fun i key held => ?_, fun p n call' member => ?_,
    fun token n call' member => ?_, fun i p n call' member => ?_, ?_⟩
  · obtain ⟨maxClients, reading, member⟩ := inv.known (settings.2.2.1 ▸ running)
    rw [settings.2.2.2, trace]
    exact ⟨maxClients, reading, List.mem_append_right _ (List.mem_cons_of_mem _ member)⟩
  · rw [global, count, inv.globals, Nat.add_assoc]
  · rw [challenge, count, inv.challenges]
  · obtain ⟨before, -, above⟩ := sends i key held
    obtain ⟨installed, alone, bounded⟩ := inv.clients i key before
    refine ⟨installed.grown grown, fun j other => alone j (sends j key other).1, ?_⟩
    rw [count]
    omega
  · rcases seals_ member with ⟨rfl, rfl⟩ | old
    · obtain ⟨nonce, large, less, presents⟩ := fits
      exact ⟨nonce, large, less, presents.grown addresses grown⟩
    · obtain ⟨nonce, large, less, presents⟩ := inv.globalSeals p n call' old
      exact ⟨nonce, large, by omega, presents.grown addresses grown⟩
  · rcases seals_ member with ⟨rfl, rfl⟩ | old
    · exact ⟨fits.1.trans settings.2.2.2.symm, fits.2⟩
    · obtain ⟨isKey, nonce, less⟩ := inv.challengeSeals token n call' old
      exact ⟨isKey.trans settings.2.2.2.symm, nonce, by omega⟩
  · rcases seals_ member with ⟨rfl, rfl⟩ | old
    · obtain ⟨nonce, small, installed, less⟩ := fits
      exact ⟨nonce, small, installed.grown grown, less⟩
    · obtain ⟨nonce, small, installed, less⟩ := inv.clientSeals i p n call' old
      refine ⟨nonce, small, installed.grown grown, fun j held => ?_⟩
      obtain ⟨before, below, -⟩ := sends j call'.key held
      exact (less j before).trans_le below
  · rw [trace]
    have here : NoncesUnique (.sealed kind call :: s.trace) := by
      refine ⟨fun kind' call' isSealed => ?_, inv.unique⟩
      cases isSealed
      exact fresh
    refine here.append fun effect member earlier kind' call' isSealed => ?_
    rw [isSealed] at member
    exact absurd rfl (List.any_eq_false.mp noSeal _ member)

/-- **A packet numbered by the global sequence.** -/
theorem Nonces.sendGlobal {p : Packet} {destination : Address} (inv : Nonces s)
    (few : FewPackets (sendGlobalPacket env config s p destination key).trace)
    (presents : Presents s key) (apart : key ≠ s.challengeKey) :
    Nonces (sendGlobalPacket env config s p destination key) := by
  have noSeal : [Effect.sent destination (writePacket env p s.globalSequence key
    config.protocolID)].any Effect.sealEvent = false := rfl
  have next : (s.globalSequence + 1).toNat = s.globalSequence.toNat + 1 := by
    have counts := (few _ (List.suffix_refl _)).1
    have count : sealCount SealKind.isGlobal
        (thisRun (sendGlobalPacket env config s p destination key).trace) =
          sealCount SealKind.isGlobal (thisRun s.trace) + 1 := sealCount_cons _ _ noSeal
    have globals := inv.globals
    exact toNat_succ (by omega)
  have large : 2 ^ 63 ≤ s.globalSequence.toNat := by
    rw [inv.globals]
    exact Nat.le_add_right _ _
  refine inv.sealed [_] (.global p s.globalSequence) rfl noSeal ⟨rfl, rfl, rfl, rfl⟩
    next rfl (fun i key' held => ⟨⟨held.connected, held.network, held.mapped⟩, le_rfl, le_rfl⟩)
    ⟨rfl, large, ?_, presents⟩ fun kind' call' member sameKey sameNonce => ?_
  · show _ < (s.globalSequence + 1).toNat
    omega
  · cases kind' with
    | global p' n =>
      obtain ⟨nonce, -, less, -⟩ := inv.globalSeals p' n call' member
      rw [← packetNonce_injective (sameNonce.trans nonce)] at less
      exact lt_irrefl _ less
    | client i p' n =>
      obtain ⟨nonce, small, -, -⟩ := inv.clientSeals i p' n call' member
      rw [← packetNonce_injective (sameNonce.trans nonce)] at small
      omega
    | challengeToken token n =>
      exact apart (sameKey.trans (inv.challengeSeals token n call' member).1)

/-- **A challenge token.** -/
theorem Nonces.sealChallenge {token : ChallengeToken} {new : List Effect} (inv : Nonces s)
    (noSeal : new.any Effect.sealEvent = false)
    (few : FewPackets (new ++ .sealed (.challengeToken token s.challengeSequence)
      (encryptChallengeToken env token.write s.challengeSequence s.challengeKey) :: s.trace))
    (apart : ∀ key, Presents s key ∨ Installed s key → key ≠ s.challengeKey) :
    Nonces { s with
      challengeSequence := s.challengeSequence + 1
      trace := new ++ .sealed (.challengeToken token s.challengeSequence)
        (encryptChallengeToken env token.write s.challengeSequence s.challengeKey) :: s.trace } := by
  have next : (s.challengeSequence + 1).toNat = s.challengeSequence.toNat + 1 := by
    have counts := (few (.sealed (.challengeToken token s.challengeSequence)
      (encryptChallengeToken env token.write s.challengeSequence s.challengeKey) :: s.trace)
      (List.suffix_append _ _)).2.2
    have count : sealCount SealKind.isChallengeToken (thisRun
        (.sealed (.challengeToken token s.challengeSequence) (encryptChallengeToken env token.write
          s.challengeSequence s.challengeKey) :: s.trace)) =
          sealCount SealKind.isChallengeToken (thisRun s.trace) + 1 :=
      sealCount_cons _ [] rfl
    have challenges := inv.challenges
    exact toNat_succ (by omega)
  refine inv.sealed new (.challengeToken token s.challengeSequence) rfl noSeal
    ⟨rfl, rfl, rfl, rfl⟩ rfl next
    (fun i key' held => ⟨⟨held.connected, held.network, held.mapped⟩, le_rfl, le_rfl⟩)
    ⟨rfl, rfl, ?_⟩ fun kind' call' member sameKey sameNonce => ?_
  · show _ < (s.challengeSequence + 1).toNat
    omega
  · cases kind' with
    | global p' n =>
      obtain ⟨-, -, -, presents⟩ := inv.globalSeals p' n call' member
      exact apart call'.key (.inl presents) sameKey.symm
    | client i p' n =>
      obtain ⟨-, -, installed, -⟩ := inv.clientSeals i p' n call' member
      exact apart call'.key (.inr installed) sameKey.symm
    | challengeToken token' n =>
      obtain ⟨-, nonce, less⟩ := inv.challengeSeals token' n call' member
      rw [← packetNonce_injective (sameNonce.trans nonce)] at less
      exact lt_irrefl _ less

/-- **A packet to a client**, numbered by its slot. -/
theorem Nonces.send {p : Packet} {i e : Nat} (inv : Nonces s)
    (connected : (s.clients i).connected = true) (network : (s.clients i).loopback = false)
    (mapped : (s.clients i).encryptionIndex = some e)
    (few : FewPackets (writeToClient env config
      { s with encryptionManager := s.encryptionManager.access e s.time } p i
      (s.encryptionManager.mapping e).sendKey).trace)
    (apart : ∀ key, Installed s key → key ≠ s.challengeKey) :
    Nonces (writeToClient env config
      { s with encryptionManager := s.encryptionManager.access e s.time } p i
      (s.encryptionManager.mapping e).sendKey) := by
  have holds : Sends s i (s.encryptionManager.mapping e).sendKey := ⟨connected, network, e, mapped, rfl⟩
  obtain ⟨installed, alone, bounded⟩ := inv.clients i _ holds
  have noSeal : [Effect.sent (s.clients i).address (writePacket env p (s.clients i).sequence
    (s.encryptionManager.mapping e).sendKey config.protocolID)].any Effect.sealEvent = false := rfl
  have small : (s.clients i).sequence.toNat < 2 ^ 63 := by
    have counts := (few _ (List.suffix_refl _)).2.1
    have count : sealCount SealKind.isClient (thisRun (writeToClient env config
        { s with encryptionManager := s.encryptionManager.access e s.time } p i
        (s.encryptionManager.mapping e).sendKey).trace) =
          sealCount SealKind.isClient (thisRun s.trace) + 1 := sealCount_cons _ _ noSeal
    omega
  have next : ((s.clients i).sequence + 1).toNat = (s.clients i).sequence.toNat + 1 :=
    toNat_succ (by omega)
  generalize isAfter : writeToClient env config
    { s with encryptionManager := s.encryptionManager.access e s.time } p i
    (s.encryptionManager.mapping e).sendKey = s' at *
  have here : (s'.clients i).sequence = (s.clients i).sequence + 1 := by
    rw [← isAfter]
    simp [writeToClient]
  have others : ∀ j, j ≠ i → s'.clients j = s.clients j := by
    intro j other
    rw [← isAfter]
    exact Function.update_of_ne other _ _
  have sends : ∀ j key, Sends s' j key → Sends s j key := by
    intro j key held
    obtain ⟨w, isIndex, isKey⟩ := held.mapped
    have session : SameSession (s.clients j) (s'.clients j) := by
      rw [← isAfter]
      exact writeToClient_session env config
        { s with encryptionManager := s.encryptionManager.access e s.time } p i _ j
    refine ⟨session.connected.symm.trans held.connected, session.loopback.symm.trans held.network,
      w, session.encryptionIndex.symm.trans isIndex, ?_⟩
    obtain ⟨_, same⟩ := access_mapping s.encryptionManager e w s.time
    rw [← isAfter] at isKey
    rw [← isKey]
    exact (congrArg EncryptionMapping.sendKey same).symm
  refine inv.sealed [_] (.client i p (s.clients i).sequence) (by rw [← isAfter]; rfl) noSeal
    (by rw [← isAfter]; exact ⟨rfl, rfl, rfl, rfl⟩) (by rw [← isAfter]; rfl) (by rw [← isAfter]; rfl)
    (fun j key held => ⟨sends j key held, ?_⟩) ⟨rfl, small, installed, fun j held => ?_⟩
    fun kind' call' member sameKey sameNonce => ?_
  · by_cases isI : j = i
    · subst isI
      rw [here, next]
      exact ⟨Nat.le_succ _, le_rfl⟩
    · rw [others j isI]
      exact ⟨le_rfl, Nat.le_add_right _ _⟩
  · rw [alone j (sends j _ held), here, next]
    exact Nat.lt_succ_self _
  · cases kind' with
    | global p' n =>
      obtain ⟨nonce, large, -, -⟩ := inv.globalSeals p' n call' member
      rw [← packetNonce_injective (sameNonce.trans nonce)] at large
      exact absurd large (Nat.not_le.mpr small)
    | client j p' n =>
      obtain ⟨nonce, -, -, less⟩ := inv.clientSeals j p' n call' member
      have below := less i (sameKey ▸ holds)
      rw [← packetNonce_injective (sameNonce.trans nonce)] at below
      exact lt_irrefl _ below
    | challengeToken token n =>
      exact apart _ installed (sameKey.trans (inv.challengeSeals token n call' member).1)

/-- **A new client** sends under a key that was never installed in this run, from zero on. -/
theorem Nonces.install (inv : Nonces s) (source : Address) (e i : Nat) (clientID : UInt64)
    (timeout : Int32) (userData : UserData)
    (fresh : ¬ Installed s (s.encryptionManager.mapping e).sendKey) :
    Nonces (installClient s i source clientID e timeout userData) := by
  have trace := installClient_trace s i source clientID e timeout userData
  have slot : ((installClient s i source clientID e timeout userData).clients i).sequence = 0 ∧
      ((installClient s i source clientID e timeout userData).clients i).encryptionIndex =
        some e := by
    simp [installClient]
  have others : ∀ j, j ≠ i →
      (installClient s i source clientID e timeout userData).clients j = s.clients j :=
    fun j other => Function.update_of_ne other _ _
  have sameKey : ∀ w,
      ((installClient s i source clientID e timeout userData).encryptionManager.mapping w).sendKey =
        (s.encryptionManager.mapping w).sendKey := by
    intro w
    rw [installClient_manager]
    by_cases here : w = e
    · subst here
      simp [EncryptionManager.set]
    · simp [EncryptionManager.set, here]
  have known : (installClient s i source clientID e timeout userData).running = true →
      ∃ maxClients reading, .started maxClients s.challengeKey reading ∈ s.trace := inv.known
  have globals : (installClient s i source clientID e timeout userData).globalSequence =
    s.globalSequence := rfl
  have challenges : (installClient s i source clientID e timeout userData).challengeSequence =
    s.challengeSequence ∧ (installClient s i source clientID e timeout userData).challengeKey =
      s.challengeKey := ⟨rfl, rfl⟩
  have addresses : (installClient s i source clientID e timeout userData).address = s.address ∧
    (installClient s i source clientID e timeout userData).address2 = s.address2 := ⟨rfl, rfl⟩
  generalize installClient s i source clientID e timeout userData = s' at *
  have run : thisRun s'.trace = .installed i source e (s.encryptionManager.mapping e).sendKey
      (s.encryptionManager.mapping e).receiveKey :: thisRun s.trace := by
    rw [trace, thisRun_cons rfl]
  have grown : thisRun s.trace ⊆ thisRun s'.trace := by
    rw [run]
    exact List.subset_cons_self _ _
  have old : ∀ {kind call}, .sealed kind call ∈ thisRun s'.trace →
      .sealed kind call ∈ thisRun s.trace := by
    intro kind call member
    rw [run] at member
    simpa using member
  have count : ∀ k, sealCount k (thisRun s'.trace) = sealCount k (thisRun s.trace) := by
    intro k
    rw [run]
    exact sealCount_append k [_] _ |>.trans (Nat.zero_add _)
  -- the new client has the new key, every other one an old key
  have sends : ∀ j key, Sends s' j key →
      j = i ∧ key = (s.encryptionManager.mapping e).sendKey ∨ j ≠ i ∧ Sends s j key := by
    intro j key held
    obtain ⟨w, isIndex, isKey⟩ := held.mapped
    rw [sameKey w] at isKey
    by_cases here : j = i
    · subst here
      rw [slot.2] at isIndex
      cases isIndex
      exact .inl ⟨rfl, isKey.symm⟩
    · rw [others j here] at isIndex
      exact .inr ⟨here, others j here ▸ held.connected, others j here ▸ held.network, w, isIndex,
        isKey⟩
  have installedOf : ∀ {j key}, Sends s j key → Installed s key :=
    fun held => (inv.clients _ _ held).1
  refine ⟨fun running => ?_, ?_, ?_, fun j key held => ?_, fun p n call member => ?_,
    fun token n call member => ?_, fun j p n call member => ?_, ?_⟩
  · obtain ⟨maxClients, reading, member⟩ := known running
    rw [challenges.2, trace]
    exact ⟨maxClients, reading, List.mem_cons_of_mem _ member⟩
  · rw [globals, count]
    exact inv.globals
  · rw [challenges.1, count]
    exact inv.challenges
  · rw [count]
    rcases sends j key held with ⟨rfl, rfl⟩ | ⟨other, before⟩
    · refine ⟨⟨j, source, e, _, by rw [run]; exact List.mem_cons_self⟩, fun k also => ?_, ?_⟩
      · rcases sends k _ also with ⟨same, -⟩ | ⟨-, beforeK⟩
        · exact same
        · exact absurd (installedOf beforeK) fresh
      · rw [slot.1]
        exact Nat.zero_le _
    · obtain ⟨installed, alone, bounded⟩ := inv.clients j key before
      refine ⟨installed.grown grown, fun k also => ?_, by rw [others j other]; exact bounded⟩
      rcases sends k key also with ⟨-, rfl⟩ | ⟨-, beforeK⟩
      · exact absurd installed fresh
      · exact alone k beforeK
  · obtain ⟨nonce, large, less, presents⟩ := inv.globalSeals p n call (old member)
    exact ⟨nonce, large, globals ▸ less, presents.grown addresses grown⟩
  · obtain ⟨isKey, nonce, less⟩ := inv.challengeSeals token n call (old member)
    exact ⟨isKey.trans challenges.2.symm, nonce, challenges.1 ▸ less⟩
  · obtain ⟨nonce, small, installed, less⟩ := inv.clientSeals j p n call (old member)
    refine ⟨nonce, small, installed.grown grown, fun k held => ?_⟩
    rcases sends k call.key held with ⟨-, isNew⟩ | ⟨other, before⟩
    · exact absurd (isNew ▸ installed) fresh
    · rw [others k other]
      exact less k before
  · rw [trace]
    refine ⟨fun kind call isSeal => ?_, inv.unique⟩
    cases isSeal

/-- A new run starts its counters anew. -/
theorem Nonces.boundary {effect : Effect} {new : List Effect} (inv : Nonces s)
    (trace : s'.trace = effect :: (new ++ s.trace)) (isBoundary : effect.boundary = true)
    (noSeal : new.any Effect.sealEvent = false)
    (counters : s'.globalSequence = globalSequenceStart ∧ s'.challengeSequence = 0)
    (known : s'.running = true →
      ∃ maxClients reading, effect = .started maxClients s'.challengeKey reading)
    (sends : ∀ i key, ¬ Sends s' i key) : Nonces s' := by
  have empty : thisRun s'.trace = [] := by rw [trace, thisRun_boundary isBoundary]
  refine ⟨fun running => ?_, ?_, ?_, fun i key held => absurd held (sends i key), ?_, ?_, ?_, ?_⟩
  · obtain ⟨maxClients, reading, isStarted⟩ := known running
    rw [trace, isStarted]
    exact ⟨maxClients, reading, List.mem_cons_self⟩
  · rw [counters.1, empty]
    rfl
  · rw [counters.2, empty]
    rfl
  · rw [empty]
    exact nofun
  · rw [empty]
    exact nofun
  · rw [empty]
    exact nofun
  · rw [trace]
    refine ⟨fun kind call isSealed => ?_, ?_⟩
    · rw [isSealed] at isBoundary
      cases isBoundary
    · refine inv.unique.append fun effect member earlier kind call isSealed => ?_
      rw [isSealed] at member
      exact absurd rfl (List.any_eq_false.mp noSeal _ member)

/-! ### Runs -/

theorem Nonces.step (inv : Nonces s) (binding : Binding env s) (ledger : Ledger env s)
    (provenance : Provenance config s) (step : SealStep env config s s')
    (only : OnlyIssued issued s.trace) (apart : ChallengeKeyApart issued s.trace)
    (few : FewPackets s'.trace) : Nonces s' := by
  have presentsApart : s.running = true → ∀ key, Presents s key → key ≠ s.challengeKey :=
    fun running key presents => presents.ne_challengeKey inv running provenance only apart
  cases step with
  | quiet new trace noSeal settings counters sends =>
    exact inv.quiet trace noSeal settings counters sends
  | sendGlobal p destination key running presents =>
    exact inv.sendGlobal few presents (presentsApart running key presents)
  | issue source request token running presented =>
    have noSeal : [Effect.challenged source request (encryptChallengeToken env
      (ChallengeToken.write ⟨token.clientID, token.userData⟩) s.challengeSequence
      s.challengeKey)].any Effect.sealEvent = false := rfl
    have suffix : [Effect.challenged source request (encryptChallengeToken env
          (ChallengeToken.write ⟨token.clientID, token.userData⟩) s.challengeSequence
          s.challengeKey)] ++
        .sealed (.challengeToken ⟨token.clientID, token.userData⟩ s.challengeSequence)
          (encryptChallengeToken env (ChallengeToken.write ⟨token.clientID, token.userData⟩)
            s.challengeSequence s.challengeKey) :: s.trace <:+
        (sendChallenge env config s source request token).trace :=
      (List.suffix_cons _ _).trans (List.suffix_cons _ _)
    have challenged := inv.sealChallenge noSeal (few.of_suffix suffix) fun key held =>
      presentsApart running key (held.elim id fun installed => installed.presents ledger)
    refine challenged.sendGlobal few ?_ ?_
    · exact Presents.grown ⟨source, request, token, presented, rfl⟩ ⟨rfl, rfl⟩
        fun _ member => List.mem_cons_of_mem _ (List.mem_cons_of_mem _ member)
    · exact presentsApart running _ ⟨source, request, token, presented, rfl⟩
  | install source e i clientID userData found unbound =>
    refine inv.install source e i clientID _ userData ?_
    rintro ⟨i', address, e', receiveKey, member⟩
    obtain ⟨-, equal, live, -⟩ := EncryptionManager.lookup_eq_some.mp found
    rcases ledger.spent e (usable_of_equal equal) _ _ _ _ member with bound | expired
    · exact bound unbound
    · rw [live] at expired
      cases expired
  | send p i e note noSeal connected network mapped =>
    have noted : Nonces { s with trace := note ++ s.trace } :=
      inv.quiet rfl noSeal ⟨rfl, rfl, rfl⟩ ⟨rfl, rfl, rfl⟩ fun i key sends =>
        ⟨⟨sends.connected, sends.network, sends.mapped⟩, rfl⟩
    refine noted.send connected network mapped few fun key installed => ?_
    have before : Installed s key := by
      obtain ⟨j, address, e', receiveKey, member⟩ := installed
      have inside : ∀ effect ∈ note, effect.boundary = false := fun effect member =>
        Effect.inside_of_noSeal (by simpa using List.any_eq_false.mp noSeal effect member)
      rw [thisRun_append inside] at member
      exact ⟨j, address, e', receiveKey, (List.mem_append.mp member).resolve_left fun new =>
        List.any_eq_false.mp noSeal _ new rfl⟩
    exact presentsApart (binding.running connected) key (before.presents ledger)
  | boundary effect new trace isBoundary noSeal counters known sends =>
    exact inv.boundary trace isBoundary noSeal counters known sends

/-- What is assumed of tokens, clock readings, challenge keys and the length of runs. -/
structure SealsFew (issued : AeadCall → Prop) (trace : List Effect) : Prop where
  tokens : TokensFresh issued trace
  apart : ChallengeKeyApart issued trace
  few : FewPackets trace

theorem SealsFew.of_suffix {before after : List Effect} (suffix : before <:+ after)
    (met : SealsFew issued after) : SealsFew issued before :=
  ⟨met.tokens.of_suffix suffix, fun key member =>
    met.apart key ((suffix.sublist.filterMap _).subset member), met.few.of_suffix suffix⟩

theorem Run.nonces {calls : List Call} (quiet : config.NonReentrant)
    (distinct : DistinctTokens issued) (run : Run env config calls s)
    (met : SealsFew issued s.trace) : Nonces s :=
  (Run.along (SealsFew issued) (fun s => Provenance config s ∧ Ledger env s ∧ Nonces s) quiet
    (fun _ _ suffix => .of_suffix suffix)
    (fun address address2 time => ⟨.new config address address2 time, .new address address2 time,
      .new address address2 time⟩)
    (fun _ _ binding atom met ⟨provenance, ledger, nonces⟩ =>
      have step := atom.tokenStep binding
      have before := met.of_suffix atom.grows
      ⟨provenance.step step,
        ledger.step binding distinct provenance step met.tokens.only met.tokens.fresh,
        nonces.step binding ledger provenance (atom.sealStep binding provenance)
          before.tokens.only before.apart met.few⟩)
    run met).2.2

end Seals

end Server

theorem NoncesUnique.nodup {trace : List Effect} (unique : NoncesUnique trace) :
    ((seals (thisRun trace)).map fun call => (call.key, call.nonce)).Nodup := by
  induction trace with
  | nil => exact List.nodup_nil
  | cons effect earlier ih =>
    by_cases isBoundary : effect.boundary = true
    · rw [thisRun_boundary isBoundary]
      exact List.nodup_nil
    rw [thisRun_cons (by simpa using isBoundary)]
    cases effect with
    | sealed kind call =>
      refine List.nodup_cons.mpr ⟨fun member => ?_, ih unique.2⟩
      obtain ⟨call', isSeal, same⟩ := List.mem_map.mp member
      obtain ⟨effect, inTrace, isCall⟩ := List.mem_filterMap.mp isSeal
      split at isCall
      · cases isCall
        injection same with sameKey sameNonce
        exact unique.1 kind call rfl _ call' inTrace sameKey.symm sameNonce.symm
      · cases isCall
    | _ => exact ih unique.2

namespace Server

variable {env : Platform} {config : ServerConfig} {s : Server} {issued : AeadCall → Prop}

/-- **The server never seals twice with one key and nonce** in a run in which datagrams arrive one
at a time: at every point of the trace, the pairs the run has sealed with so far are distinct. -/
theorem server_nonces_unique {calls : List Call} (quiet : config.NonReentrant)
    (distinct : DistinctTokens issued) (run : Run env config calls s)
    (single : ∀ call ∈ calls, call.OneAtATime) (forward : ClockForward s.trace)
    (only : OnlyIssued issued s.trace) (apart : ChallengeKeyApart issued s.trace)
    (few : FewPackets s.trace) :
    ∀ earlier, earlier <:+ s.trace →
      ((seals (thisRun earlier)).map fun call => (call.key, call.nonce)).Nodup := by
  intro earlier suffix
  have fresh := run.freshRequests quiet forward (run.prompt quiet single)
  have unique : NoncesUnique s.trace :=
    (run.nonces quiet distinct ⟨⟨only, fresh⟩, apart, few⟩).unique
  exact NoncesUnique.nodup (unique.of_suffix suffix)

/-- A client connects: a challenge token, its packet and a keep-alive are sealed. -/
theorem server_nonces_unique_connected :
    ∃ calls s, Run samplePlatform Sample.config calls s ∧ (seals (thisRun s.trace)).length = 3 ∧
      ∀ earlier, earlier <:+ s.trace →
        ((seals (thisRun earlier)).map fun call => (call.key, call.nonce)).Nodup := by
  have connects : (execute samplePlatform Sample.config Sample.server Sample.connectFirst).map
      (fun s : Server => decide (ClockForward s.trace ∧ OnlyIssued (· ∈ Sample.issued) s.trace ∧
        (∀ key ∈ challengeKeys s.trace, ∀ call ∈ Sample.issued,
          call.token.map (·.serverToClientKey) ≠ some key) ∧
        s.trace.length < 2 ^ 63 ∧ (seals (thisRun s.trace)).length = 3)) = some true := by
    decide +kernel
  obtain ⟨s, done, facts⟩ := Option.map_eq_some_iff.mp connects
  obtain ⟨forward, only, apart, short, sealed⟩ := of_decide_eq_true facts
  have run := Sample.server_run.execute done
  refine ⟨_, s, run, sealed, server_nonces_unique Sample.config_nonReentrant
    Sample.issued_distinct run (fun call member => ?_) forward only (.of_list apart)
    (.of_length short)⟩
  simp only [Sample.connectFirst, List.reverse_cons, List.reverse_nil, List.nil_append,
    List.cons_append, List.mem_cons, List.not_mem_nil, or_false, List.append_nil] at member
  rcases member with rfl | rfl | rfl <;> exact nofun

end Server

end Netcode
