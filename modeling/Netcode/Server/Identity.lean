/-
**Who is connected.**

A client's keys reach its slot through the mapping of its address; its client id and user data reach
it through the challenge token it echoes. Both go back to private connect tokens that were presented
in this run: the keys by `Provenance`, the identity because a challenge token that opens under the
challenge key was sealed by this server, in this run, for such a token.

Nothing ties the two together. A client that presents two tokens from one address leaves the keys of
the second one in the mapping and may still echo the challenge of the first one.

* `slots_authorized` — identity and keys of every connected client come from accepted tokens;
* `slot_token_binding` — they come from **one token** in runs in which every response echoes a
  challenge that was issued for the keys it is read with;
* `slot_token_mixed` — a run in which they do not.
-/

import Netcode.Server.Nonces

namespace Netcode

open Trace

/-! ### Assumptions on challenge tokens -/

/-- A challenge token that opens was sealed by the server before. -/
def authenticChallenge (effect : Effect) (earlier : List Effect) : Bool :=
  match effect with
  | .opened .challengeToken call => decide (call ∈ seals earlier)
  | _ => true

/-- **The AEAD opens only what was sealed**, and only the server seals under a challenge key. -/
def ChallengesAuthentic (trace : List Effect) : Prop :=
  Always (fun effect earlier => authenticChallenge effect earlier = true) trace

/-- `RandomBytes` gives every run a challenge key of its own. -/
def FreshChallengeKeys (trace : List Effect) : Prop := (challengeKeys trace).Nodup

/-- The challenge in `call` was issued to an address for a token with these keys. -/
def issuedFor (trace : List Effect) (source : Address) (call : AeadCall) (sendKey receiveKey : Key) :
    Bool :=
  trace.any fun
    | .challenged source' request call' =>
      call' = call && source'.Equal source &&
        match ConnectTokenPrivate.read request.connectTokenData.bytes with
        | some (some token) =>
          token.serverToClientKey = sendKey && token.clientToServerKey = receiveKey
        | _ => false
    | _ => false

/-- A response that is processed echoes a challenge that was issued to its address for the token
whose keys the mapping of this address holds. -/
def echoesOwnChallenge : Effect → List Effect → Bool
  | .responded source _ sendKey receiveKey, .opened .challengeToken call :: before =>
    issuedFor (thisRun before) source call sendKey receiveKey
  | _, _ => true

def OwnChallenges (trace : List Effect) : Prop :=
  Always (fun effect earlier => echoesOwnChallenge effect earlier = true) trace

instance (trace : List Effect) : Decidable (ChallengesAuthentic trace) :=
  inferInstanceAs (Decidable (Always _ trace))

instance (trace : List Effect) : Decidable (OwnChallenges trace) :=
  inferInstanceAs (Decidable (Always _ trace))

theorem mem_seals {call : AeadCall} {trace : List Effect} :
    call ∈ seals trace ↔ ∃ kind, .sealed kind call ∈ trace := by
  constructor
  · intro member
    obtain ⟨effect, inTrace, isCall⟩ := List.mem_filterMap.mp member
    split at isCall
    · rename_i kind call'
      cases isCall
      exact ⟨kind, inTrace⟩
    · cases isCall
  · rintro ⟨kind, member⟩
    exact List.mem_filterMap.mpr ⟨_, member, rfl⟩

theorem issuedFor_eq_true {trace : List Effect} {source : Address} {call : AeadCall}
    {sendKey receiveKey : Key} (isIssued : issuedFor trace source call sendKey receiveKey = true) :
    ∃ source' request token, .challenged source' request call ∈ trace ∧
      source'.Equal source = true ∧
      ConnectTokenPrivate.read request.connectTokenData.bytes = some (some token) ∧
      token.serverToClientKey = sendKey ∧ token.clientToServerKey = receiveKey := by
  obtain ⟨effect, member, isMatch⟩ := List.any_eq_true.mp isIssued
  split at isMatch
  · rename_i source' request call'
    simp only [Bool.and_eq_true, decide_eq_true_eq] at isMatch
    obtain ⟨⟨rfl, equal⟩, keys⟩ := isMatch
    split at keys
    · rename_i token reads
      simp only [Bool.and_eq_true, decide_eq_true_eq] at keys
      exact ⟨source', request, token, member, equal, reads, keys.1, keys.2⟩
    · cases keys
  · cases isMatch

/-! ### What a step does to challenges -/

/-- Effects that have to do with challenges: a seal, a challenge, the start or end of a run. -/
def Effect.challengeEvent : Effect → Bool
  | .sealed _ _ => true
  | .challenged _ _ _ => true
  | effect => effect.boundary

theorem Effect.inside_of_noChallenge {effect : Effect} (quiet : effect.challengeEvent = false) :
    effect.boundary = false := by
  cases effect <;> first | rfl | exact quiet

/-- One seal, and nothing else that has to do with challenges. -/
theorem Effect.inside_of_oneSeal {new : List Effect} {kind : SealKind} {call : AeadCall}
    (one : ∀ effect ∈ new, effect.challengeEvent = true → effect = .sealed kind call) :
    ∀ effect ∈ new, effect.boundary = false := by
  intro effect member
  by_cases event : effect.challengeEvent = true
  · rw [one effect member event]
    rfl
  · exact inside_of_noChallenge (by simpa using event)

namespace Server

variable {env : Platform} {config : ServerConfig} {s s' : Server}

/-- What no step within a run changes. -/
structure SameSettings (s s' : Server) : Prop where
  address : s'.address = s.address
  address2 : s'.address2 = s.address2
  running : s'.running = s.running
  challengeKey : s'.challengeKey = s.challengeKey
  floor : s'.minConnectTokenExpireTimestamp = s.minConnectTokenExpireTimestamp

/-- **What one atom can do to challenges.** -/
inductive ChallengeStep (env : Platform) (config : ServerConfig) (s : Server) : Server → Prop
  | quiet {s' : Server} (new : List Effect) (trace : s'.trace = new ++ s.trace)
      (none : new.any Effect.challengeEvent = false) (same : SameSettings s s') :
      ChallengeStep env config s s'
  | packet {s' : Server} (kind : SealKind) (p : Packet) (n : UInt64) (key : Key)
      (notToken : kind.isChallengeToken = false) (new : List Effect)
      (trace : s'.trace = new ++ s.trace)
      (one : ∀ effect ∈ new, effect.challengeEvent = true →
        effect = .sealed kind (sealPacket env p n key config.protocolID))
      (same : SameSettings s s') : ChallengeStep env config s s'
  | issue (source : Address) (request : ConnectionRequest) (token : ConnectTokenPrivate)
      (running : s.running = true) (presented : Presented s source request token) :
      ChallengeStep env config s (sendChallenge env config s source request token)
  | start (maxClients : Nat) (challengeKey : Key) (reading : UInt64) (idle : s.running = false) :
      ChallengeStep env config s (startServer config s maxClients challengeKey reading)
  | reset : ChallengeStep env config s (resetServer s)

theorem LocalChange.noChallenge {i : Nat} {slot : ClientSlot} {effects : List Effect}
    (change : LocalChange config s i slot effects) : effects.any Effect.challengeEvent = false := by
  cases change with
  | push payload sequence => split <;> rfl
  | deliver => split <;> rfl
  | _ => rfl

theorem Atom.challengeStep (atom : Atom env config s s') : ChallengeStep env config s s' := by
  cases atom with
  | arrive reading source data =>
    exact .quiet [.datagram reading source data] rfl rfl ⟨rfl, rfl, rfl, rfl, rfl⟩
  | micro micro =>
    cases micro with
    | tick | refresh | connectLoopback | disconnectLoopback =>
      exact .quiet [] rfl rfl ⟨rfl, rfl, rfl, rfl, rfl⟩
    | clock reading => exact .quiet [.clock reading] rfl rfl ⟨rfl, rfl, rfl, rfl, rfl⟩
    | openRequest source reading data request call =>
      exact .quiet [.requested source request reading call, .opened .connectToken call] rfl rfl
        ⟨rfl, rfl, rfl, rfl, rfl⟩
    | openPacket source reading data clientIndex e outcome call running head located reads isOpened
        notRequest =>
      obtain ⟨clients, same, -⟩ := applyReading_eq s source reading clientIndex outcome isOpened
        notRequest
      rw [same]
      exact .quiet [.opened .packet call] rfl rfl ⟨rfl, rfl, rfl, rfl, rfl⟩
    | respond source clientIndex e sequence challengeTokenSequence data packetCall call =>
      exact .quiet [.responded _ _ _ _, .opened .challengeToken call] rfl rfl ⟨rfl, rfl, rfl, rfl, rfl⟩
    | deny destination key =>
      exact .packet (.global .connectionDenied s.globalSequence) .connectionDenied s.globalSequence
        key rfl [.sent _ _, .sealed _ _] rfl (by simp [Effect.challengeEvent, Effect.boundary])
        ⟨rfl, rfl, rfl, rfl, rfl⟩
    | ask source request token reading =>
      exact .quiet [.clock reading] rfl rfl ⟨rfl, rfl, rfl, rfl, rfl⟩
    | grant source request token reading =>
      exact .quiet [.clock reading] rfl rfl ⟨rfl, rfl, rfl, rfl, rfl⟩
    | issue source request token running presented => exact .issue source request token running presented
    | install source e i challenge =>
      exact .quiet [.installed i source e _ _] rfl rfl ⟨rfl, rfl, rfl, rfl, rfl⟩
    | send p i e note connected network mapped kind =>
      refine .packet (.client i p (s.clients i).sequence) p (s.clients i).sequence
        (s.encryptionManager.mapping e).sendKey rfl (.sent _ _ :: .sealed _ _ :: note) rfl ?_
        ⟨rfl, rfl, rfl, rfl, rfl⟩
      cases kind <;> simp [Effect.challengeEvent, Effect.boundary]
    | release i e => exact .quiet [.released i e] rfl rfl ⟨rfl, rfl, rfl, rfl, rfl⟩
    | change i slot effects change =>
      exact .quiet effects rfl change.noChallenge ⟨rfl, rfl, rfl, rfl, rfl⟩
    | reset => exact .reset
    | start maxClients challengeKey reading idle => exact .start maxClients challengeKey reading idle

/-- **Where challenges come from.** -/
structure Challenges (env : Platform) (config : ServerConfig) (s : Server) : Prop where
  /-- A packet is sealed with associated data, unlike a challenge token. -/
  packets : ∀ kind call, .sealed kind call ∈ s.trace → kind.isChallengeToken = false →
    ∃ p n key, call = sealPacket env p n key config.protocolID
  tokens : ∀ token n call, .sealed (.challengeToken token n) call ∈ s.trace →
    call.key ∈ challengeKeys s.trace ∧ call = encryptChallengeToken env token.write n call.key
  known : s.running = true → s.challengeKey ∈ challengeKeys s.trace
  /-- What is sealed under the challenge key of this run was sealed in this run. -/
  here : FreshChallengeKeys s.trace → s.running = true → ∀ token n call,
    .sealed (.challengeToken token n) call ∈ s.trace → call.key = s.challengeKey →
      .sealed (.challengeToken token n) call ∈ thisRun s.trace
  presented : ∀ token n call, .sealed (.challengeToken token n) call ∈ thisRun s.trace →
    ∃ source request privateToken, Presented s source request privateToken ∧
      token = ⟨privateToken.clientID, privateToken.userData⟩
  challenged : ∀ source request call, .challenged source request call ∈ thisRun s.trace →
    ∃ token n key, Presented s source request token ∧
      call = encryptChallengeToken env (ChallengeToken.write ⟨token.clientID, token.userData⟩) n key

theorem Challenges.new (env : Platform) (config : ServerConfig) (address address2 : Address)
    (time : ℚ) : Challenges env config (new address address2 time) :=
  ⟨nofun, nofun, nofun, fun _ => nofun, nofun, nofun⟩

/-- New effects of a run that are no challenges. -/
theorem Challenges.grown (inv : Challenges env config s) (new : List Effect)
    (trace : s'.trace = new ++ s.trace) (same : SameSettings s s')
    (inside : ∀ effect ∈ new, effect.boundary = false)
    (noToken : ∀ token n call, .sealed (.challengeToken token n) call ∉ new)
    (noChallenge : ∀ source request call, .challenged source request call ∉ new)
    (packets : ∀ kind call, .sealed kind call ∈ new →
      ∃ p n key, call = sealPacket env p n key config.protocolID) : Challenges env config s' := by
  have run : thisRun s'.trace = new ++ thisRun s.trace := by rw [trace, thisRun_append inside]
  have grown : thisRun s.trace ⊆ thisRun s'.trace := by
    rw [run]
    exact List.subset_append_right _ _
  have suffix : s.trace <:+ s'.trace := ⟨new, trace.symm⟩
  have keys : challengeKeys s.trace ⊆ challengeKeys s'.trace :=
    (suffix.sublist.filterMap _).subset
  have old : ∀ {token n call}, .sealed (.challengeToken token n) call ∈ s'.trace →
      .sealed (.challengeToken token n) call ∈ s.trace := fun {token n call} member =>
    (List.mem_append.mp (trace ▸ member)).resolve_left (noToken token n call)
  have oldHere : ∀ {token n call}, .sealed (.challengeToken token n) call ∈ thisRun s'.trace →
      .sealed (.challengeToken token n) call ∈ thisRun s.trace := fun {token n call} member =>
    (List.mem_append.mp (run ▸ member)).resolve_left (noToken token n call)
  refine ⟨fun kind call member notToken => ?_, fun token n call member => ?_, fun running => ?_,
    fun fresh running token n call member isKey => ?_, fun token n call member => ?_,
    fun source request call member => ?_⟩
  · rcases List.mem_append.mp (trace ▸ member) with isNew | before
    · exact packets kind call isNew
    · exact inv.packets kind call before notToken
  · obtain ⟨isKey, form⟩ := inv.tokens token n call (old member)
    exact ⟨keys isKey, form⟩
  · rw [same.challengeKey]
    exact keys (inv.known (same.running ▸ running))
  · exact grown (inv.here (List.Nodup.sublist (suffix.sublist.filterMap _) fresh)
      (same.running ▸ running) token n call (old member) (isKey.trans same.challengeKey))
  · obtain ⟨source, request, privateToken, presented, isToken⟩ :=
      inv.presented token n call (oldHere member)
    exact ⟨source, request, privateToken,
      presented.grown ⟨same.address, same.address2⟩ grown, isToken⟩
  · have before := (List.mem_append.mp (run ▸ member)).resolve_left
      (noChallenge source request call)
    obtain ⟨token, n, key, presented, form⟩ := inv.challenged source request call before
    exact ⟨token, n, key, presented.grown ⟨same.address, same.address2⟩ grown, form⟩

/-- **A challenge is issued** for a token that was presented in this run. -/
theorem Challenges.issue {source : Address} {request : ConnectionRequest}
    {token : ConnectTokenPrivate} (inv : Challenges env config s) (running : s.running = true)
    (presented : Presented s source request token) :
    Challenges env config (sendChallenge env config s source request token) := by
  generalize isCall : encryptChallengeToken env
    (ChallengeToken.write ⟨token.clientID, token.userData⟩) s.challengeSequence s.challengeKey = call
  have isKey : call.key = s.challengeKey := by
    rw [← isCall]
    rfl
  -- the state in which the challenge packet is sent
  have sealed : Challenges env config { s with
      challengeSequence := s.challengeSequence + 1
      trace := .challenged source request call ::
        .sealed (.challengeToken ⟨token.clientID, token.userData⟩ s.challengeSequence) call ::
        s.trace } := by
    have grown : thisRun s.trace ⊆ thisRun (.challenged source request call ::
        .sealed (.challengeToken ⟨token.clientID, token.userData⟩ s.challengeSequence) call ::
        s.trace) := fun _ member => List.mem_cons_of_mem _ (List.mem_cons_of_mem _ member)
    have here : .sealed (.challengeToken ⟨token.clientID, token.userData⟩ s.challengeSequence) call ∈
        thisRun (.challenged source request call ::
        .sealed (.challengeToken ⟨token.clientID, token.userData⟩ s.challengeSequence) call ::
        s.trace) := List.mem_cons_of_mem _ List.mem_cons_self
    have older : ∀ {kind call'}, .sealed kind call' ∈ (.challenged source request call ::
        .sealed (.challengeToken ⟨token.clientID, token.userData⟩ s.challengeSequence) call ::
        s.trace) → (kind = .challengeToken ⟨token.clientID, token.userData⟩ s.challengeSequence ∧
          call' = call) ∨ .sealed kind call' ∈ s.trace := by
      intro kind call' member
      rcases List.mem_cons.mp ((List.mem_cons.mp member).resolve_left nofun) with isNew | before
      · injection isNew with isKind isCall'
        exact .inl ⟨isKind, isCall'⟩
      · exact .inr before
    refine ⟨fun kind call' member notToken => ?_, fun token' n call' member => ?_, inv.known,
      fun fresh _ token' n call' member isKey' => ?_, fun token' n call' member => ?_,
      fun source' request' call' member => ?_⟩
    · rcases older member with ⟨rfl, -⟩ | before
      · cases notToken
      · exact inv.packets kind call' before notToken
    · rcases older member with ⟨isToken, rfl⟩ | before
      · injection isToken with isToken isN
        subst isToken isN
        refine ⟨isKey ▸ inv.known running, ?_⟩
        rw [isKey]
        exact isCall.symm
      · exact inv.tokens token' n call' before
    · rcases older member with ⟨isToken, rfl⟩ | before
      · rw [isToken]
        exact here
      · exact grown (inv.here fresh running token' n call' before isKey')
    · have inRun : .sealed (.challengeToken token' n) call' ∈ (.challenged source request call ::
          .sealed (.challengeToken ⟨token.clientID, token.userData⟩ s.challengeSequence) call ::
          thisRun s.trace) := member
      rcases List.mem_cons.mp ((List.mem_cons.mp inRun).resolve_left nofun) with isNew | before
      · injection isNew with isToken _
        injection isToken with isToken _
        exact ⟨source, request, token, presented.grown ⟨rfl, rfl⟩ grown, isToken⟩
      · obtain ⟨source', request', privateToken, presented', isToken⟩ :=
          inv.presented token' n call' before
        exact ⟨source', request', privateToken, presented'.grown ⟨rfl, rfl⟩ grown, isToken⟩
    · have inRun : .challenged source' request' call' ∈ (.challenged source request call ::
          .sealed (.challengeToken ⟨token.clientID, token.userData⟩ s.challengeSequence) call ::
          thisRun s.trace) := member
      rcases List.mem_cons.mp inRun with isNew | rest
      · cases isNew
        exact ⟨token, s.challengeSequence, s.challengeKey, presented.grown ⟨rfl, rfl⟩ grown,
          isCall.symm⟩
      · obtain ⟨token', n, key, presented', form⟩ := inv.challenged source' request' call'
          ((List.mem_cons.mp rest).resolve_left nofun)
        exact ⟨token', n, key, presented'.grown ⟨rfl, rfl⟩ grown, form⟩
  subst isCall
  refine sealed.grown [_, _] rfl ⟨rfl, rfl, rfl, rfl, rfl⟩ (by simp [Effect.boundary]) (by simp)
    (by simp) fun kind call' member => ?_
  simp only [List.mem_cons, reduceCtorEq, Effect.sealed.injEq, List.not_mem_nil, or_false,
    false_or] at member
  exact ⟨_, _, _, member.2⟩

/-- A new run. -/
theorem Challenges.start (inv : Challenges env config s) (maxClients : Nat) (challengeKey : Key)
    (reading : UInt64) :
    Challenges env config (startServer config s maxClients challengeKey reading) := by
  have old : ∀ {kind call}, .sealed kind call ∈
      (startServer config s maxClients challengeKey reading).trace → .sealed kind call ∈ s.trace :=
    fun member => (List.mem_cons.mp ((List.mem_cons.mp member).resolve_left nofun)).resolve_left
      nofun
  refine ⟨fun kind call member => inv.packets kind call (old member), fun token n call member => ?_,
    fun _ => List.mem_cons_self, fun fresh _ token n call member isKey => ?_, nofun, nofun⟩
  · obtain ⟨isKey, form⟩ := inv.tokens token n call (old member)
    exact ⟨List.mem_cons_of_mem _ isKey, form⟩
  · -- the key is new, so nothing was sealed under it
    have before := (inv.tokens token n call (old member)).1
    rw [isKey] at before
    exact absurd before (List.nodup_cons.mp fresh).1

theorem Challenges.reset (inv : Challenges env config s) : Challenges env config (resetServer s) :=
  have old : ∀ {kind call}, .sealed kind call ∈ (resetServer s).trace → .sealed kind call ∈ s.trace :=
    fun member => (List.mem_cons.mp member).resolve_left nofun
  ⟨fun kind call member => inv.packets kind call (old member),
    fun token n call member => inv.tokens token n call (old member), nofun, fun _ => nofun, nofun,
    nofun⟩

theorem Challenges.step (inv : Challenges env config s) (step : ChallengeStep env config s s') :
    Challenges env config s' := by
  cases step with
  | quiet new trace none same =>
    refine inv.grown new trace same
      (fun effect member => Effect.inside_of_noChallenge
        (by simpa using List.any_eq_false.mp none effect member))
      (fun token n call member => List.any_eq_false.mp none _ member rfl)
      (fun source request call member => List.any_eq_false.mp none _ member rfl)
      fun kind call member => absurd rfl (List.any_eq_false.mp none _ member)
  | packet kind p n key notToken new trace one same =>
    refine inv.grown new trace same (Effect.inside_of_oneSeal one) (fun token n' call member => ?_)
      (fun source request call member => ?_) fun kind' call member => ?_
    · cases one _ member rfl
      cases notToken
    · cases one _ member rfl
    · cases one _ member rfl
      exact ⟨p, n, key, rfl⟩
  | issue source request token running presented => exact inv.issue running presented
  | start maxClients challengeKey reading => exact inv.start maxClients challengeKey reading
  | reset => exact inv.reset

/-! ### Slots -/

/-- Between a `Start` and a `Stop` what a run has shown stays shown. -/
theorem Atom.runGrows (atom : Atom env config s s') (before : s.running = true)
    (after : s'.running = true) : thisRun s.trace ⊆ thisRun s'.trace ∧
      s'.address = s.address ∧ s'.address2 = s.address2 := by
  cases atom.challengeStep with
  | quiet new trace none same =>
    refine ⟨fun _ => mem_thisRun_of_grown trace fun effect member => ?_, same.address, same.address2⟩
    exact Effect.inside_of_noChallenge (by simpa using List.any_eq_false.mp none effect member)
  | packet kind p n key notToken new trace one same =>
    exact ⟨fun _ => mem_thisRun_of_grown trace (Effect.inside_of_oneSeal one), same.address,
      same.address2⟩
  | issue =>
    exact ⟨fun _ member => List.mem_cons_of_mem _ (List.mem_cons_of_mem _
      (List.mem_cons_of_mem _ (List.mem_cons_of_mem _ member))), rfl, rfl⟩
  | start maxClients challengeKey reading idle =>
    rw [before] at idle
    cases idle
  | reset => cases after

theorem Presented.atom {source : Address} {request : ConnectionRequest}
    {token : ConnectTokenPrivate} (presented : Presented s source request token)
    (atom : Atom env config s s') (before : s.running = true) (after : s'.running = true) :
    Presented s' source request token :=
  have ⟨grown, addresses⟩ := atom.runGrows before after
  presented.grown addresses grown

/-- The identity in slot `i` is the one in a token. -/
structure Identified (s : Server) (i : Nat) (token : ConnectTokenPrivate) : Prop where
  clientID : (s.clients i).clientID = token.clientID
  userData : (s.clients i).userData = token.userData

/-- **Slot `i`, connected through mapping `e`, belongs to one token**, presented from its address. -/
structure BoundTo (s : Server) (i e : Nat) (source : Address) (request : ConnectionRequest)
    (token : ConnectTokenPrivate) : Prop where
  presented : Presented s source request token
  address : source.Equal (s.clients i).address = true
  identified : Identified s i token
  sendKey : (s.encryptionManager.mapping e).sendKey = token.serverToClientKey
  receiveKey : (s.encryptionManager.mapping e).receiveKey = token.clientToServerKey

/-- What a response shows of the challenge token in it. -/
theorem Responding.challenge_eq {source : Address} {e : Nat} {challenge token : ChallengeToken}
    {n : UInt64} {call : AeadCall} (responding : Responding env s source e challenge n call)
    (plaintext : call.plaintext = token.write.bytes.take (challengeTokenBytes - MacBytes)) :
    challenge = token := by
  obtain ⟨data, opens, reads⟩ := responding.opens
  have size : (data.bytes.drop (challengeTokenBytes - MacBytes)).length = MacBytes := by
    rw [List.length_drop, data.length_eq]
    rfl
  rw [plaintext, ChallengeToken.read_write token _ size] at reads
  exact (Option.some_inj.mp (Option.some_inj.mp reads)).symm

/-- **The challenge token in a response was sealed in this run**, for a token that was presented. -/
theorem Responding.presented {source : Address} {e : Nat} {challenge : ChallengeToken} {n : UInt64}
    {call : AeadCall} (inv : Challenges env config s)
    (responding : Responding env s source e challenge n call)
    (authentic : ChallengesAuthentic s.trace) (fresh : FreshChallengeKeys s.trace) :
    ∃ source' request token, Presented s source' request token ∧
      challenge = ⟨token.clientID, token.userData⟩ := by
  obtain ⟨packetCall, reading, data, earlier, head, -⟩ := responding.head
  have isSealed : ∃ kind, .sealed kind call ∈ s.trace := by
    rw [head] at authentic
    obtain ⟨kind, member⟩ := mem_seals.mp (of_decide_eq_true authentic.2.1)
    refine ⟨kind, ?_⟩
    rw [head]
    exact List.mem_cons_of_mem _ (List.mem_cons_of_mem _ member)
  obtain ⟨kind, sealed⟩ := isSealed
  obtain ⟨data', opens, -⟩ := responding.opens
  obtain ⟨isKey, -, additional, -, -⟩ := decryptAEAD_eq_some opens
  by_cases isToken : kind.isChallengeToken = true
  · cases kind with
    | challengeToken token n' =>
      obtain ⟨-, form⟩ := inv.tokens token n' call sealed
      have inRun := inv.here fresh responding.running token n' call sealed isKey
      obtain ⟨source', request, privateToken, presented, rfl⟩ := inv.presented token n' call inRun
      exact ⟨source', request, privateToken, presented,
        responding.challenge_eq (by rw [form]; rfl)⟩
    | _ => cases isToken
  · obtain ⟨p, n', key, rfl⟩ := inv.packets kind call sealed (by simpa using isToken)
    cases additional

/-- What installing a client puts into its slot. -/
theorem installClient_slot (s : Server) (i : Nat) (source : Address) (clientID : UInt64) (e : Nat)
    (timeout : Int32) (userData : UserData) :
    ((installClient s i source clientID e timeout userData).clients i).clientID = clientID ∧
      ((installClient s i source clientID e timeout userData).clients i).userData = userData ∧
      ((installClient s i source clientID e timeout userData).clients i).address = source ∧
      ((installClient s i source clientID e timeout userData).clients i).encryptionIndex =
        some e := by
  simp [installClient]

/-- Every connected client has the identity of a token that was presented in this run. -/
def SlotsIdentified (s : Server) : Prop :=
  ∀ i, (s.clients i).connected = true → (s.clients i).loopback = false →
    ∃ source request token, Presented s source request token ∧ Identified s i token

theorem SlotsIdentified.atom (slots : SlotsIdentified s) (binding : Binding env s)
    (inv : Challenges env config s) (atom : Atom env config s s')
    (authentic : ChallengesAuthentic s.trace) (fresh : FreshChallengeKeys s.trace) :
    SlotsIdentified s' := by
  intro i connected network
  have after := (binding.atom atom).running connected
  rcases atom.cameFrom binding connected network with
    ⟨connected', network', e, mapped, held⟩ | ⟨e, source, challenge, n, call, installing⟩
  · obtain ⟨source, request, token, presented, identified⟩ := slots i connected' network'
    exact ⟨source, request, token, presented.atom atom (binding.running connected') after,
      held.session.clientID.trans identified.clientID,
      held.session.userData.trans identified.userData⟩
  · obtain ⟨source', request, token, presented, isChallenge⟩ :=
      installing.responding.presented inv authentic fresh
    obtain ⟨clientID, userData, -, -⟩ := installClient_slot s i source challenge.clientID e
      (s.encryptionManager.mapping e).timeout challenge.userData
    refine ⟨source', request, token, presented.atom atom installing.responding.running after, ?_⟩
    rw [installing.after]
    rw [isChallenge] at clientID userData ⊢
    exact ⟨clientID, userData⟩

/-- Every connected client belongs to one token. -/
def SlotsBound (s : Server) : Prop :=
  ∀ i e, (s.clients i).connected = true → (s.clients i).loopback = false →
    (s.clients i).encryptionIndex = some e →
    ∃ source request token, BoundTo s i e source request token

theorem SlotsBound.atom (slots : SlotsBound s) (binding : Binding env s)
    (inv : Challenges env config s) (atom : Atom env config s s') (own : OwnChallenges s.trace) :
    SlotsBound s' := by
  intro i e connected network mapped
  have after := (binding.atom atom).running connected
  rcases atom.cameFrom binding connected network with
    ⟨connected', network', e', mapped', held⟩ | ⟨e', source, challenge, n, call, installing⟩
  · rw [held.session.encryptionIndex, mapped'] at mapped
    cases mapped
    obtain ⟨source, request, token, bound⟩ := slots i e connected' network' mapped'
    exact ⟨source, request, token,
      bound.presented.atom atom (binding.running connected') after,
      held.session.address ▸ bound.address,
      ⟨held.session.clientID.trans bound.identified.clientID,
        held.session.userData.trans bound.identified.userData⟩,
      held.sendKey.trans bound.sendKey, held.receiveKey.trans bound.receiveKey⟩
  · obtain ⟨packetCall, reading, data, earlier, head, -⟩ := installing.responding.head
    rw [head] at own
    obtain ⟨source', request, token, challenged, equal, reads, sendKey, receiveKey⟩ :=
      issuedFor_eq_true own.1
    have inRun : .challenged source' request call ∈ thisRun s.trace := by
      rw [head]
      exact List.mem_cons_of_mem _ (List.mem_cons_of_mem _ challenged)
    obtain ⟨token', n', key, presented, form⟩ := inv.challenged source' request call inRun
    obtain rfl : token' = token := Option.some_inj.mp (Option.some_inj.mp
      (presented.reads.symm.trans reads))
    have isChallenge := installing.responding.challenge_eq (by rw [form]; rfl)
    obtain ⟨clientID, userData, address, index⟩ := installClient_slot s i source challenge.clientID
      e' (s.encryptionManager.mapping e').timeout challenge.userData
    have presented' := presented.atom atom installing.responding.running after
    have manager := installClient_manager s i source challenge.clientID e'
      (s.encryptionManager.mapping e').timeout challenge.userData
    rw [installing.after] at mapped presented' ⊢
    rw [index] at mapped
    cases mapped
    refine ⟨source', request, token', presented', by rw [address]; exact equal, ⟨?_, ?_⟩, ?_, ?_⟩
    · rw [clientID, isChallenge]
    · rw [userData, isChallenge]
    · rw [manager]
      simpa [EncryptionManager.set] using sendKey.symm
    · rw [manager]
      simpa [EncryptionManager.set] using receiveKey.symm

/-! ### Authorized clients -/

/-- **A token that authorizes a connection**: sealed under the private key for this protocol,
listing this server, and presented in this run from `source` by a request that had not expired and
does not expire before the floor set at `Start`. -/
structure AuthorizedBy (config : ServerConfig) (issued : AeadCall → Prop) (s : Server)
    (source : Address) (token : ConnectTokenPrivate) : Prop where
  presented : ∃ request reading call,
    .requested source request reading call ∈ thisRun s.trace ∧ issued call ∧
      call.key = config.privateKey ∧ call.additional =
        connectTokenAdditionalData config.protocolID request.connectTokenExpireTimestamp ∧
      call.token = some token ∧ reading < request.connectTokenExpireTimestamp ∧
      s.minConnectTokenExpireTimestamp ≤ request.connectTokenExpireTimestamp
  listed : s.serverAddressListed token = true

section Results

variable {issued : AeadCall → Prop} {calls : List Call}

theorem Presented.authorized {source : Address} {request : ConnectionRequest}
    {token : ConnectTokenPrivate} (presented : Presented s source request token)
    (provenance : Provenance config s) (only : OnlyIssued issued s.trace) :
    AuthorizedBy config issued s source token := by
  obtain ⟨reading, call, member⟩ := presented.requested
  have accepted := provenance.accepted source request reading call member
  exact ⟨⟨request, reading, call, member, accepted.isIssued only, accepted.key,
    accepted.additional, accepted.token_eq presented.reads, accepted.unexpired,
    accepted.afterStart⟩, presented.listed⟩

theorem Run.slotsIdentified (quiet : config.NonReentrant) (run : Run env config calls s)
    (authentic : ChallengesAuthentic s.trace) (fresh : FreshChallengeKeys s.trace) :
    SlotsIdentified s :=
  (Run.along (fun trace => ChallengesAuthentic trace ∧ FreshChallengeKeys trace)
    (fun s => Challenges env config s ∧ SlotsIdentified s) quiet
    (fun _ _ suffix met => ⟨met.1.of_suffix suffix,
      List.Nodup.sublist (suffix.sublist.filterMap _) met.2⟩)
    (fun address address2 time => ⟨.new env config address address2 time,
      fun _ connected => absurd connected nofun⟩)
    (fun _ _ binding atom met ⟨challenges, slots⟩ =>
      ⟨challenges.step atom.challengeStep, slots.atom binding challenges atom
        (met.1.of_suffix atom.grows)
        (List.Nodup.sublist (atom.grows.sublist.filterMap _) met.2)⟩)
    run ⟨authentic, fresh⟩).2

theorem Run.slotsBound (quiet : config.NonReentrant) (run : Run env config calls s)
    (own : OwnChallenges s.trace) : SlotsBound s :=
  (Run.along OwnChallenges (fun s => Challenges env config s ∧ SlotsBound s) quiet
    (fun _ _ suffix met => met.of_suffix suffix)
    (fun address address2 time => ⟨.new env config address address2 time,
      fun _ _ connected => absurd connected nofun⟩)
    (fun _ _ binding atom met ⟨challenges, slots⟩ =>
      ⟨challenges.step atom.challengeStep,
        slots.atom binding challenges atom (met.of_suffix atom.grows)⟩)
    run own).2

/-- **Only authorized clients are connected.** The identity of every client on the network is that
of a token that authorizes a connection, and its keys are those of such a token that was presented
from the client's own address. -/
theorem slots_authorized (quiet : config.NonReentrant) (run : Run env config calls s)
    (only : OnlyIssued issued s.trace) (authentic : ChallengesAuthentic s.trace)
    (fresh : FreshChallengeKeys s.trace) :
    ∀ i, (s.clients i).connected = true → (s.clients i).loopback = false →
      (∃ source token, AuthorizedBy config issued s source token ∧
        (s.clients i).clientID = token.clientID ∧ (s.clients i).userData = token.userData) ∧
      ∃ e source token, (s.clients i).encryptionIndex = some e ∧
        AuthorizedBy config issued s source token ∧ source.Equal (s.clients i).address = true ∧
        (s.encryptionManager.mapping e).sendKey = token.serverToClientKey ∧
        (s.encryptionManager.mapping e).receiveKey = token.clientToServerKey := by
  intro i connected network
  have provenance := run.provenance quiet
  refine ⟨?_, ?_⟩
  · obtain ⟨source, request, token, presented, identified⟩ :=
      run.slotsIdentified quiet authentic fresh i connected network
    exact ⟨source, token, presented.authorized provenance only, identified.clientID,
      identified.userData⟩
  · obtain ⟨e, bound⟩ := (run.binding quiet).bound i connected network
    obtain ⟨source, request, token, origin⟩ := provenance.origin e (usable_of_equal bound.address)
    exact ⟨e, source, token, bound.index, origin.presented.authorized provenance only,
      Address.Equal.trans origin.address bound.address, origin.sendKey, origin.receiveKey⟩

/-- A client that connected is authorized. -/
theorem slots_authorized_connected :
    ∃ calls s, Run samplePlatform Sample.config calls s ∧ (s.clients 0).connected = true ∧
      ∃ source token, AuthorizedBy Sample.config (· ∈ Sample.issued) s source token ∧
        (s.clients 0).clientID = token.clientID := by
  have connects : (execute samplePlatform Sample.config Sample.server Sample.connectFirst).map
      (fun s : Server => decide (OnlyIssued (· ∈ Sample.issued) s.trace ∧
        ChallengesAuthentic s.trace ∧ (challengeKeys s.trace).Nodup ∧
        (s.clients 0).connected = true ∧ (s.clients 0).loopback = false)) = some true := by
    decide +kernel
  obtain ⟨s, done, facts⟩ := Option.map_eq_some_iff.mp connects
  obtain ⟨only, authentic, fresh, connected, network⟩ := of_decide_eq_true facts
  have run := Sample.server_run.execute done
  obtain ⟨⟨source, token, authorized, clientID, -⟩, -⟩ := slots_authorized
    Sample.config_nonReentrant run only authentic fresh 0 connected network
  exact ⟨_, s, run, connected, source, token, authorized, clientID⟩

/-- **Every client belongs to one token**, presented from its address in this run, in runs in which
every response echoes a challenge issued for the keys it is read with. -/
theorem slot_token_binding (quiet : config.NonReentrant) (run : Run env config calls s)
    (own : OwnChallenges s.trace) :
    ∀ i, (s.clients i).connected = true → (s.clients i).loopback = false →
      ∃ e source request token, (s.clients i).encryptionIndex = some e ∧
        BoundTo s i e source request token := by
  intro i connected network
  obtain ⟨e, bound⟩ := (run.binding quiet).bound i connected network
  obtain ⟨source, request, token, boundTo⟩ :=
    run.slotsBound quiet own i e connected network bound.index
  exact ⟨e, source, request, token, bound.index, boundTo⟩

/-- A client that echoed its own challenge. -/
theorem slot_token_binding_connected :
    ∃ calls s, Run samplePlatform Sample.config calls s ∧ OwnChallenges s.trace ∧
      (s.clients 0).connected = true ∧ ∃ e source request token, BoundTo s 0 e source request token := by
  have connects : (execute samplePlatform Sample.config Sample.server Sample.connectFirst).map
      (fun s : Server => decide (OwnChallenges s.trace ∧ (s.clients 0).connected = true ∧
        (s.clients 0).loopback = false)) = some true := by
    decide +kernel
  obtain ⟨s, done, facts⟩ := Option.map_eq_some_iff.mp connects
  obtain ⟨own, connected, network⟩ := of_decide_eq_true facts
  have run := Sample.server_run.execute done
  obtain ⟨e, source, request, token, -, bound⟩ := slot_token_binding Sample.config_nonReentrant run
    own 0 connected network
  exact ⟨_, s, run, own, connected, e, source, request, token, bound⟩

end Results

/-! ### A client with two tokens -/

/-- The client ids and send keys of the tokens presented in a run. -/
def presentedTokens (trace : List Effect) : List (UInt64 × Key) :=
  trace.filterMap fun
    | .requested _ request _ _ =>
      (ConnectTokenPrivate.read request.connectTokenData.bytes).join.map fun token =>
        (token.clientID, token.serverToClientKey)
    | _ => none

theorem Presented.mem_presentedTokens {source : Address} {request : ConnectionRequest}
    {token : ConnectTokenPrivate} (presented : Presented s source request token) :
    (token.clientID, token.serverToClientKey) ∈ presentedTokens (thisRun s.trace) := by
  obtain ⟨reading, call, member⟩ := presented.requested
  refine List.mem_filterMap.mpr ⟨_, member, ?_⟩
  simp [presented.reads]

end Server

namespace Sample

/-- From one address the first token is presented and then the second one; the response is sealed
with the keys of the second and echoes the challenge of the first. -/
def mixTokens : List Server.Call :=
  [.start 2 challengeKey 1000,
    .processPacket firstAddress (request first 1040) 1001 1001,
    .processPacket firstAddress (request second 1100) 1001 1001,
    .processPacket firstAddress (response first second 0 1) 1001 1001]

end Sample

namespace Server

/-- **A client is connected under the identity of one token with the keys of another.** -/
theorem slot_token_mixed :
    ∃ calls s, Run samplePlatform Sample.config calls s ∧
      OnlyIssued (· ∈ Sample.issued) s.trace ∧ ChallengesAuthentic s.trace ∧
      (s.clients 0).connected = true ∧ (s.clients 0).loopback = false ∧
      ¬ ∃ e source request token, (s.clients 0).encryptionIndex = some e ∧
        BoundTo s 0 e source request token := by
  have mixes : (execute samplePlatform Sample.config Sample.server Sample.mixTokens).map
      (fun s : Server => decide (OnlyIssued (· ∈ Sample.issued) s.trace ∧
        ChallengesAuthentic s.trace ∧ (s.clients 0).connected = true ∧
        (s.clients 0).loopback = false ∧ (s.clients 0).encryptionIndex = some 0 ∧
        ((s.clients 0).clientID, (s.encryptionManager.mapping 0).sendKey) ∉
          presentedTokens (thisRun s.trace))) = some true := by
    decide +kernel
  obtain ⟨s, done, facts⟩ := Option.map_eq_some_iff.mp mixes
  obtain ⟨only, authentic, connected, network, mapped, mixed⟩ := of_decide_eq_true facts
  refine ⟨_, s, Sample.server_run.execute done, only, authentic, connected, network, ?_⟩
  rintro ⟨e, source, request, token, mapped', bound⟩
  rw [mapped] at mapped'
  cases mapped'
  refine mixed ?_
  rw [bound.identified.clientID, bound.sendKey]
  exact bound.presented.mem_presentedTokens

end Server

end Netcode
