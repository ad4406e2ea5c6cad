/-
**Every connect starts a fresh session.**

A token is read over the one before it, and the reset of a client is spread over `Disconnect`,
`Connect` and the failed ways through both. What makes the past invisible is an invariant: a client
that is neither connecting nor connected is blank (`Prepared`).

* `ConnectToken.read_alike` — whatever token is read over, the same buffers are accepted, and the
  tokens that are read differ in nothing but the unused fields and entries of the address array;
* `Alike` — two clients that differ in such fields only; `step_alike`: **every call takes alike
  clients to alike clients**, or panics on both;
* `connect_starts_fresh` — after `Connect` with a good token the client is alike to a new one that was
  given the same token.
-/

import Netcode.Client.Expiry
import Netcode.Codec.Pipeline

namespace Netcode

open Trace (Lockstep)

/-! ### Tokens read over different tokens -/

/-- The same address, up to fields of the other family. -/
def Address.Same (address other : Address) : Prop := address = other ∨ address.Equal other = true

theorem Address.Same.equal_eq {address other : Address} (same : address.Same other)
    (source : Address) : source.Equal other = source.Equal address := by
  rcases same with rfl | equal
  · rfl
  · rw [Bool.eq_iff_iff]
    exact ⟨fun before => Equal.trans before (Equal.symm equal), fun after => Equal.trans after equal⟩

/-- **Two tokens that differ in unused parts of their address arrays only.** -/
inductive ConnectToken.Alike (token : ConnectToken) : ConnectToken → Prop
  | mk (serverAddresses : List Address)
      (same : ∀ i : Nat, (i : Int) < token.numServerAddresses →
        Option.Rel Address.Same token.serverAddresses[i]? serverAddresses[i]?) :
      Alike token { token with serverAddresses := serverAddresses }

theorem readAddress_alike (old old' : Address) (buffer : Bytes) :
    Lockstep (fun read read' => read'.2 = read.2 ∧ (read.2.1 = true → read.1.Same read'.1))
      (readAddress old buffer) (readAddress old' buffer) := by
  unfold readAddress
  refine Lockstep.shared fun type => ?_
  dsimp only
  refine Lockstep.ite (fun four => ?_) fun notFour => Lockstep.ite (fun six => ?_) fun notSix => ?_
  · refine Lockstep.shared fun ipv4 => Lockstep.shared fun port => .some ⟨rfl, fun _ => .inr ?_⟩
    exact Address.equal_iff.mpr ⟨rfl, rfl, .inl ⟨four, rfl⟩⟩
  · refine Lockstep.shared fun ipv6 => Lockstep.shared fun port => .some ⟨rfl, fun _ => .inr ?_⟩
    exact Address.equal_iff.mpr ⟨rfl, rfl, .inr ⟨six, rfl⟩⟩
  · refine .some ⟨rfl, fun good => ?_⟩
    cases good

theorem readAddresses_alike (count : Nat) : ∀ {old old' : List Address},
    old.length = old'.length → ∀ buffer,
      Lockstep (fun read read' => read'.2 = read.2 ∧ (read.2.1 = true → ∀ i < count,
          Option.Rel Address.Same read.1[i]? read'.1[i]?))
        (readAddresses count old buffer) (readAddresses count old' buffer) := by
  induction count with
  | zero =>
    intro old old' length buffer
    exact .some ⟨rfl, fun _ i below => absurd below (Nat.not_lt_zero i)⟩
  | succ count ih =>
    intro old old' length buffer
    cases old with
    | nil =>
      rw [List.eq_nil_of_length_eq_zero length.symm]
      exact .none
    | cons first others =>
      cases old' with
      | nil => cases length
      | cons first' others' =>
        simp only [readAddresses]
        refine Lockstep.bind (readAddress_alike first first' buffer) ?_
        rintro ⟨address, good, rest⟩ ⟨address', good', rest'⟩ ⟨same, alike⟩
        cases same
        dsimp only at alike ⊢
        refine Lockstep.ite (fun isGood => ?_) fun bad => ?_
        · refine Lockstep.bind (ih (Nat.succ.inj length) rest) ?_
          rintro ⟨addresses, good₁, rest₁⟩ ⟨addresses', good₂, rest₂⟩ ⟨same, alikes⟩
          cases same
          refine .some ⟨rfl, fun all i below => ?_⟩
          cases i with
          | zero => exact .some (alike isGood)
          | succ i => exact alikes all i (Nat.lt_of_succ_lt_succ below)
        · refine .some ⟨rfl, fun all => ?_⟩
          cases all

namespace ConnectToken

variable {old old' : ConnectToken}

/-- Both were accepted, or both rejected. -/
def ReadAlike (read read' : ConnectToken × Bool) : Prop :=
  read'.2 = read.2 ∧ (read.2 = true → 0 < read.1.numServerAddresses ∧ read.1.Alike read'.1)

/-- **The same buffers are accepted**, and the tokens that are read are alike. -/
theorem read_alike (array : old.serverAddresses.length = old'.serverAddresses.length)
    (buffer : Bytes) :
    Lockstep ReadAlike (read old buffer) (read old' buffer) := by
  have bad : ∀ token token' : ConnectToken,
      Lockstep ReadAlike (some (token, false)) (some (token', false)) :=
    fun token token' => .some ⟨rfl, fun good => by cases good⟩
  unfold read
  refine Lockstep.ite (fun _ => bad _ _) fun _ => Lockstep.shared fun version => ?_
  refine Lockstep.ite (fun _ => bad _ _) fun _ => ?_
  refine Lockstep.shared fun protocolID => Lockstep.shared fun created =>
    Lockstep.shared fun expires => ?_
  refine Lockstep.ite (fun _ => bad _ _) fun _ => ?_
  refine Lockstep.shared fun nonce => Lockstep.shared fun privateData =>
    Lockstep.shared fun timeout => Lockstep.shared fun count => ?_
  refine Lockstep.ite (fun _ => bad _ _) fun range => ?_
  refine Lockstep.bind (readAddresses_alike _ array _) ?_
  rintro ⟨addresses, good, rest⟩ ⟨addresses', good', rest'⟩ ⟨same, alike⟩
  cases same
  dsimp only at alike ⊢
  refine Lockstep.ite (fun _ => bad _ _) fun notBad => ?_
  have positive : 0 < count.1.toInt32.toInt := not_le.mp fun low => range (.inl low)
  refine Lockstep.shared fun first => Lockstep.shared fun second =>
    .some ⟨rfl, fun _ => ⟨positive, .mk addresses' ?_⟩⟩
  intro i below
  have good : good = true := by simpa using notBad
  refine alike good i ?_
  have same := toInt_of_nonneg positive.le
  have below : (i : Int) < count.1.toInt32.toInt := below
  omega

/-- A rejected token has no keys. -/
theorem read_rejected_keys {token : ConnectToken} {buffer : Bytes}
    (reads : read old buffer = some (token, false)) :
    token.clientToServerKey = old.clientToServerKey ∧
      token.serverToClientKey = old.serverToClientKey := by
  unfold read at reads
  split_ifs at reads
  · cases reads
    exact ⟨rfl, rfl⟩
  obtain ⟨⟨version, rest⟩, -, reads⟩ := Option.bind_eq_some_iff.mp reads
  dsimp only at reads
  split_ifs at reads
  · cases reads
    exact ⟨rfl, rfl⟩
  obtain ⟨⟨protocolID, rest⟩, -, reads⟩ := Option.bind_eq_some_iff.mp reads
  obtain ⟨⟨created, rest⟩, -, reads⟩ := Option.bind_eq_some_iff.mp reads
  obtain ⟨⟨expires, rest⟩, -, reads⟩ := Option.bind_eq_some_iff.mp reads
  dsimp only at reads
  split_ifs at reads
  · cases reads
    exact ⟨rfl, rfl⟩
  obtain ⟨⟨nonce, rest⟩, -, reads⟩ := Option.bind_eq_some_iff.mp reads
  obtain ⟨⟨privateData, rest⟩, -, reads⟩ := Option.bind_eq_some_iff.mp reads
  obtain ⟨⟨timeout, rest⟩, -, reads⟩ := Option.bind_eq_some_iff.mp reads
  obtain ⟨⟨count, rest⟩, -, reads⟩ := Option.bind_eq_some_iff.mp reads
  dsimp only at reads
  split_ifs at reads
  · cases reads
    exact ⟨rfl, rfl⟩
  obtain ⟨⟨addresses, good, rest⟩, -, reads⟩ := Option.bind_eq_some_iff.mp reads
  cases good with
  | false =>
    cases reads
    exact ⟨rfl, rfl⟩
  | true =>
    -- behind the addresses nothing is rejected any more
    obtain ⟨⟨first, rest⟩, -, reads⟩ := Option.bind_eq_some_iff.mp reads
    obtain ⟨⟨second, rest⟩, -, reads⟩ := Option.bind_eq_some_iff.mp reads
    cases reads

end ConnectToken

namespace Client

open Relation (ReflTransGen)

variable {env : Platform} {connects : Bool} {config : ClientConfig} {c c' d : Client}

/-! ### Idle clients are blank -/

/-- **A client without a trace of an earlier session**, but for unused parts of its token. -/
structure Blank (c : Client) : Prop where
  sequence : c.sequence = 0
  loopback : c.loopback = false
  clientIndex : c.clientIndex = 0
  maxClients : c.maxClients = 0
  readPacketKey : c.readPacketKey = .zero _
  writePacketKey : c.writePacketKey = .zero _
  hasPacketKeys : c.hasPacketKeys = false
  packetReceiveQueue : c.packetReceiveQueue = .clear
  tokenKeys : c.connectToken.clientToServerKey = .zero _ ∧ c.connectToken.serverToClientKey = .zero _

theorem Blank.eq_with (blank : c.Blank) : c = { new c.time with
    state := c.state
    connectStartTime := c.connectStartTime
    lastPacketSendTime := c.lastPacketSendTime
    lastPacketReceiveTime := c.lastPacketReceiveTime
    shouldDisconnect := c.shouldDisconnect
    shouldDisconnectState := c.shouldDisconnectState
    serverAddressIndex := c.serverAddressIndex
    serverAddress := c.serverAddress
    connectToken := c.connectToken
    replayProtection := c.replayProtection
    challengeTokenSequence := c.challengeTokenSequence
    challengeTokenData := c.challengeTokenData
    trace := c.trace } := by
  obtain ⟨sequence, loopback, index, slots, readKey, writeKey, hasKeys, queue, -⟩ := blank
  cases c
  dsimp only at sequence loopback index slots readKey writeKey hasKeys queue
  subst sequence loopback index slots readKey writeKey hasKeys queue
  rfl

/-- **Only clients that connect have keys**, and all others are blank. -/
structure Prepared (c : Client) : Prop where
  keyed : c.Active → c.loopback = false → c.hasPacketKeys = true
  blank : ¬ c.Active → c.Blank

theorem Prepared.new (time : ℚ) : Prepared (new time) where
  keyed := fun active => absurd active (lt_irrefl _)
  blank := fun _ => ⟨rfl, rfl, rfl, rfl, rfl, rfl, rfl, rfl, rfl, rfl⟩

theorem Blank.afterReset (env : Platform) (c : Client) (destination : ClientState) :
    Blank (afterReset env c destination) :=
  ⟨rfl, rfl, rfl, rfl, rfl, rfl, rfl, rfl, rfl, rfl⟩

/-- Steps of an active client. -/
theorem Prepared.of_active (active : c'.Active)
    (keyed : c'.loopback = false → c'.hasPacketKeys = true) : Prepared c' :=
  ⟨fun _ => keyed, fun idle => absurd active idle⟩

theorem Prepared.micro (inv : Prepared c) (micro : Micro env connects c c') : Prepared c' := by
  cases micro with
  | tick | hear => exact ⟨inv.keyed, fun idle => { inv.blank idle with }⟩
  | openPacket source data currentTimestamp outcome call hasKeys =>
    refine ⟨inv.keyed, fun idle => ?_⟩
    rw [(inv.blank idle).hasPacketKeys] at hasKeys
    cases hasKeys
  | giveUp state active => exact .of_active active (inv.keyed active)
  | challenge source challengeTokenSequence challengeTokenData sequence call state fromServer packet =>
    exact .of_active (active_of_state .sendingConnectionResponse rfl (by decide))
      fun _ => packet.hasKeys
  | establish source clientIndex maxClients sequence call state fromServer packet =>
    exact .of_active (active_of_state .connected rfl (by decide)) fun _ => packet.hasKeys
  | push source payload sequence call state =>
    have active : c.Active := active_of_state _ state (by decide)
    exact .of_active active (inv.keyed active)
  | send p note active network => exact .of_active active (inv.keyed active)
  | begin => exact .of_active (active_of_state .sendingConnectionRequest rfl (by decide)) fun _ => rfl
  | reject data token allowed idle reads =>
    have stopped : ¬ ClientState.disconnected.code < ClientState.invalidConnectToken.code := by decide
    obtain ⟨first, second⟩ := ConnectToken.read_rejected_keys reads
    have blank := inv.blank idle
    exact ⟨fun active => absurd active stopped, fun _ => { blank with
      tokenKeys := ⟨first.trans blank.tokenKeys.1, second.trans blank.tokenKeys.2⟩ }⟩
  | nextServer serverAddress active network =>
    exact .of_active (active_of_state .sendingConnectionRequest rfl (by decide))
      fun _ => inv.keyed active network
  | reset destination idle =>
    exact ⟨fun active => absurd active (not_lt.mpr idle), fun _ => .afterReset env c destination⟩
  | deliver =>
    refine ⟨inv.keyed, fun idle => { inv.blank idle with packetReceiveQueue := ?_ }⟩
    show c.packetReceiveQueue.pop.1 = .clear
    rw [(inv.blank idle).packetReceiveQueue]
    rfl
  | clear =>
    exact ⟨inv.keyed, fun idle => { inv.blank idle with packetReceiveQueue := rfl }⟩
  | connectLoopback =>
    exact .of_active (active_of_state .connected rfl (by decide)) fun network => by cases network
  | pushLoopback payload sequence loopback =>
    refine ⟨inv.keyed, fun idle => ?_⟩
    rw [(inv.blank idle).loopback] at loopback
    cases loopback
  | sendLoopback payload loopback =>
    refine ⟨inv.keyed, fun idle => ?_⟩
    rw [(inv.blank idle).loopback] at loopback
    cases loopback

theorem Prepared.chain (inv : Prepared c) (chain : ReflTransGen (Micro env connects) c c') :
    Prepared c' := by
  induction chain with
  | refl => exact inv
  | tail _ last ih => exact ih.micro last

/-- **Every client is prepared**, whatever was done with it. -/
theorem Run.prepared (quiet : config.NonReentrant) {calls : List Call}
    (run : Run env config calls c) : Prepared c :=
  Run.along (fun _ => True) Prepared quiet (fun _ _ _ met => met) Prepared.new
    (fun _ _ _ micro _ held => held.micro micro) run trivial

/-! ### Two clients side by side -/

/-- The same effect, with the same addresses. -/
inductive EffectAlike : ClientEffect → ClientEffect → Prop
  | same (effect : ClientEffect) : EffectAlike effect effect
  | sent {destination destination' : Address} (same : destination.Same destination') (data : Bytes) :
      EffectAlike (.sent destination data) (.sent destination' data)
  | connecting {token token' : ConnectToken} (alike : token.Alike token') :
      EffectAlike (.connecting token) (.connecting token')

/-- The traces show the same since two points in the past. -/
def Shows (base base' trace trace' : List ClientEffect) : Prop :=
  ∃ new new', trace = new ++ base ∧ trace' = new' ++ base' ∧ List.Forall₂ EffectAlike new new'

/-- **Two clients that behave alike**: they differ in the past only, and in parts of the addresses
and of the token that nobody looks at. -/
inductive Alike (base base' : List ClientEffect) (c : Client) : Client → Prop
  | mk (serverAddress : Address) (connectToken : ConnectToken) (trace : List ClientEffect)
      (server : c.serverAddress.Same serverAddress)
      (token : c.hasPacketKeys = true → c.connectToken.Alike connectToken)
      (shows : Shows base base' c.trace trace) :
      Alike base base' c { c with
        serverAddress := serverAddress
        connectToken := connectToken
        trace := trace }

section Alike

variable {base base' : List ClientEffect}

theorem Shows.cons {trace trace' : List ClientEffect} (shows : Shows base base' trace trace')
    {effect effect' : ClientEffect} (alike : EffectAlike effect effect') :
    Shows base base' (effect :: trace) (effect' :: trace') := by
  obtain ⟨new, new', rfl, rfl, alikes⟩ := shows
  exact ⟨effect :: new, effect' :: new', rfl, rfl, .cons alike alikes⟩

/-- The same effects on both sides. -/
theorem Shows.append {trace trace' : List ClientEffect} (shows : Shows base base' trace trace')
    (effects : List ClientEffect) : Shows base base' (effects ++ trace) (effects ++ trace') := by
  induction effects with
  | nil => exact shows
  | cons effect effects ih => exact ih.cons (.same effect)

theorem Alike.withState (alike : Alike base base' c d) (next : ClientState) :
    Alike base base' (c.withState next) (d.withState next) := by
  cases alike with
  | mk serverAddress connectToken trace server token shows =>
    exact .mk serverAddress connectToken _ server token (shows.cons (.same _))

theorem setState_alike (quiet : config.NonReentrant) (alike : Alike base base' c d)
    (next : ClientState) :
    Lockstep (Alike base base') (setState config c next) (setState config d next) := by
  rw [setState_eq quiet, setState_eq quiet]
  exact .some (alike.withState next)

theorem resetConnectionData_alike (quiet : config.NonReentrant) (alike : Alike base base' c d)
    (destination : ClientState) :
    Lockstep (Alike base base') (resetConnectionData env config c destination)
      (resetConnectionData env config d destination) := by
  rw [resetConnectionData_eq quiet, resetConnectionData_eq quiet]
  cases alike with
  | mk serverAddress connectToken trace server token shows =>
    exact .some (.mk Address.none .empty _ (.inl rfl) (fun keys => by cases keys)
      (shows.cons (.same _)))

/-- **Sending**, with the keys and the protocol id of the token. -/
theorem sendPacketToServerInternal_alike (alike : Alike base base' c d)
    (keys : c.hasPacketKeys = true) (p : Packet) :
    Alike base base' (sendPacketToServerInternal env c p) (sendPacketToServerInternal env d p) := by
  cases alike with
  | mk serverAddress connectToken trace server token shows =>
    obtain ⟨serverAddresses, same⟩ := token keys
    exact .mk serverAddress _ _ server token ((shows.append _).cons (.sent server _))

theorem sendDisconnects_alike (count : List Nat) : ∀ {c d : Client}, Alike base base' c d →
    c.hasPacketKeys = true → Alike base base'
      (count.foldl (fun c _ => sendPacketToServerInternal env c .connectionDisconnect) c)
      (count.foldl (fun c _ => sendPacketToServerInternal env c .connectionDisconnect) d) := by
  induction count with
  | nil => exact fun alike _ => alike
  | cons _ rest ih =>
    intro c d alike keys
    exact ih (sendPacketToServerInternal_alike alike keys _) keys

theorem requestPacket_alike (alike : Alike base base' c d) (keys : c.hasPacketKeys = true) :
    d.requestPacket = c.requestPacket := by
  cases alike with
  | mk serverAddress connectToken trace server token shows =>
    obtain ⟨serverAddresses, same⟩ := token keys
    rfl

theorem Alike.state (alike : Alike base base' c d) : d.state = c.state := by
  cases alike
  rfl

theorem Alike.loopback (alike : Alike base base' c d) : d.loopback = c.loopback := by
  cases alike
  rfl

theorem sendPackets_alike (alike : Alike base base' c d) (keyed : c.Active → c.hasPacketKeys = true) :
    Alike base base' (sendPackets env c) (sendPackets env d) := by
  have interval : (d.time ≤ env.float64 (d.lastPacketSendTime + env.float64 packetSendInterval)) =
      (c.time ≤ env.float64 (c.lastPacketSendTime + env.float64 packetSendInterval)) := by
    cases alike
    rfl
  unfold sendPackets
  rw [alike.state]
  simp only [interval]
  split_ifs with early
  · exact alike
  cases state : c.state with
  | sendingConnectionRequest =>
    have keys := keyed (active_of_state _ state (by decide))
    dsimp only
    rw [requestPacket_alike alike keys]
    exact sendPacketToServerInternal_alike alike keys _
  | sendingConnectionResponse =>
    have keys := keyed (active_of_state _ state (by decide))
    have response : d.challengeTokenSequence = c.challengeTokenSequence ∧
        d.challengeTokenData = c.challengeTokenData := by
      cases alike
      exact ⟨rfl, rfl⟩
    dsimp only
    rw [response.1, response.2]
    exact sendPacketToServerInternal_alike alike keys _
  | connected =>
    exact sendPacketToServerInternal_alike alike (keyed (active_of_state _ state (by decide))) _
  | _ => exact alike

/-! ### Connecting and disconnecting -/

theorem disconnectInternal_alike (quiet : config.NonReentrant) (alike : Alike base base' c d)
    (prepared : c.Prepared) (destination : ClientState) (sends : Bool) :
    Lockstep (Alike base base') (disconnectInternal env config c destination sends)
      (disconnectInternal env config d destination sends) := by
  unfold disconnectInternal
  rw [alike.state, alike.loopback]
  refine Lockstep.ite (fun _ => .some alike) fun active => ?_
  dsimp only
  refine resetConnectionData_alike quiet ?_ destination
  split_ifs with talks
  · rw [Bool.and_eq_true, Bool.not_eq_true'] at talks
    have keys := prepared.keyed (not_le.mp fun low => active (.inl low)) talks.1
    exact sendDisconnects_alike _ alike keys
  · exact alike

theorem disconnect_prepared (quiet : config.NonReentrant) (prepared : c.Prepared)
    (done : disconnect env config c = some c') : c'.Prepared ∧ ¬ c'.Active :=
  ⟨prepared.chain (disconnectInternal_chain quiet le_rfl (by decide) done : ReflTransGen
    (Micro env false) c c'), disconnectInternal_idle quiet le_rfl done⟩

theorem disconnect_array (quiet : config.NonReentrant) (whole : c.WholeArray)
    (done : disconnect env config c = some c') : c'.WholeArray := by
  obtain ⟨left, returns, same⟩ := disconnect_token env quiet c
  rw [returns] at done
  cases done
  unfold WholeArray
  rcases same with same | same
  · rw [same]
    exact whole
  · rw [same]
    exact List.length_replicate

/-- **A token is taken up.** -/
theorem beginConnect_alike (alike : Alike base base' c d) {token token' : ConnectToken}
    (tokens : token.Alike token') {address address' : Address} (same : address.Same address') :
    Alike base base' (beginConnect env { c with connectToken := token } token address)
      (beginConnect env { d with connectToken := token' } token' address') := by
  cases alike with
  | mk serverAddress connectToken trace server keys shows =>
    have whole := tokens
    obtain ⟨serverAddresses, addresses⟩ := tokens
    exact .mk address' _ _ same (fun _ => whole) (shows.cons (.connecting whole))

theorem connect_alike (quiet : config.NonReentrant) (alike : Alike base base' c d)
    (prepared : c.Prepared) (whole : c.WholeArray) (whole' : d.WholeArray) (data : Bytes) :
    Lockstep (Alike base base') (connect env config c data) (connect env config d data) := by
  unfold connect
  refine Lockstep.bind_of (disconnectInternal_alike quiet alike prepared _ _) ?_
  intro left left' done done' alike
  obtain ⟨prepared, idle⟩ := disconnect_prepared quiet prepared done
  have arrays := (disconnect_array quiet whole done).trans (disconnect_array quiet whole' done').symm
  refine Lockstep.bind (ConnectToken.read_alike arrays data) ?_
  rintro ⟨token, good⟩ ⟨token', good'⟩ ⟨same, tokens⟩
  obtain rfl : good' = good := same
  cases good' with
  | false =>
    refine setState_alike quiet ?_ .invalidConnectToken
    cases alike with
    | mk serverAddress connectToken trace server keys shows =>
      refine .mk serverAddress token' trace server (fun hasKeys => ?_) shows
      rw [show left.hasPacketKeys = false from (prepared.blank idle).hasPacketKeys] at hasKeys
      cases hasKeys
  | true =>
    obtain ⟨positive, tokens⟩ := tokens rfl
    have first : Option.Rel Address.Same token.serverAddresses[0]? token'.serverAddresses[0]? := by
      cases tokens with
      | mk serverAddresses same => exact same 0 positive
    refine Lockstep.bind first fun address address' same => ?_
    exact setState_alike quiet (beginConnect_alike alike tokens same) _

/-- The next server of the token, or the end. -/
theorem connectToNextServerOrDisconnect_alike (quiet : config.NonReentrant)
    (alike : Alike base base' c d) (prepared : c.Prepared) (keys : c.hasPacketKeys = true)
    (destination : ClientState) :
    Lockstep (Alike base base') (connectToNextServerOrDisconnect env config c destination)
      (connectToNextServerOrDisconnect env config d destination) := by
  have moves : Lockstep (Option.Rel (Alike base base')) (connectToNextServer env config c)
      (connectToNextServer env config d) := by
    cases alike with
    | mk serverAddress connectToken trace server token shows =>
      obtain ⟨serverAddresses, same⟩ := token keys
      unfold connectToNextServer
      refine Lockstep.ite (fun _ => .some .none) fun more => ?_
      refine Lockstep.bind (same (c.serverAddressIndex + 1) (by push_cast; omega))
        fun address address' same => ?_
      refine Lockstep.bind (setState_alike quiet ?_ _) fun c d alike => .some (.some alike)
      exact .mk address' _ trace same token shows
  unfold connectToNextServerOrDisconnect
  refine Lockstep.bind moves fun next next' both => ?_
  cases both with
  | some alike => exact .some alike
  | none => exact disconnectInternal_alike quiet alike prepared destination false

/-! ### Packets -/

/-- Without keys no packet is read. -/
theorem processPacket_keyless (keyless : c.hasPacketKeys = false) (source : Address) (data : Bytes)
    (currentTimestamp : UInt64) :
    processPacket env config c source data currentTimestamp = some c := by
  unfold processPacket
  obtain ⟨outcome, returns, reads⟩ := readPacket_spec env c.connectToken.protocolID currentTimestamp
    0 clientAllowedPackets data none none (some c.replayProtection)
  dsimp only
  rw [keyless, if_neg (by decide), returns]
  cases reads with
  | ignored => rfl
  | request key request call allowed => cases allowed
  | encrypted key prefixByte type sequenceData sequence call packet isKey => cases isKey

theorem pushPayload_alike (alike : Alike base base' c d) (payload : Bytes) (sequence : UInt64) :
    Alike base base' (c.pushPayload payload sequence) (d.pushPayload payload sequence) := by
  cases alike with
  | mk serverAddress connectToken trace server token shows =>
    refine .mk serverAddress connectToken
      (if (c.packetReceiveQueue.push payload sequence).2 then .queued payload sequence :: trace
        else trace) server token ?_
    unfold pushPayload
    dsimp only
    split_ifs
    · exact shows.cons (.same _)
    · exact shows

theorem Alike.received (alike : Alike base base' c d) (time : ℚ) :
    Alike base base' { c with lastPacketReceiveTime := time }
      { d with lastPacketReceiveTime := time } := by
  cases alike with
  | mk serverAddress connectToken trace server token shows =>
    exact .mk serverAddress connectToken trace server token shows

/-- Both are told to leave. -/
theorem Alike.leaves (alike : Alike base base' c d) (state : ClientState) :
    Alike base base'
      { c with
        shouldDisconnect := true
        shouldDisconnectState := state
        lastPacketReceiveTime := c.time }
      { d with
        shouldDisconnect := true
        shouldDisconnectState := state
        lastPacketReceiveTime := d.time } := by
  cases alike with
  | mk serverAddress connectToken trace server token shows =>
    exact .mk serverAddress connectToken trace server token shows

/-- A keep-alive packet, by the state of the client. -/
theorem processKeepAlive_eq (c : Client) (source : Address) (clientIndex maxClients : Int32)
    (sequence : UInt64) :
    processPacketInternal config c source (.connectionKeepAlive clientIndex maxClients) sequence =
      if source.Equal c.serverAddress then
        if c.state = .connected then some { c with lastPacketReceiveTime := c.time }
        else if c.state = .sendingConnectionResponse then
          setState config { c with
            lastPacketReceiveTime := c.time
            clientIndex := clientIndex.toInt
            maxClients := maxClients.toInt } .connected
        else some c
      else some c := by
  unfold processPacketInternal
  dsimp only
  refine if_congr Iff.rfl ?_ rfl
  cases state : c.state <;> rfl

theorem processPacketInternal_alike (quiet : config.NonReentrant) (alike : Alike base base' c d)
    (source : Address) (p : Packet) (sequence : UInt64) :
    Lockstep (Alike base base') (processPacketInternal config c source p sequence)
      (processPacketInternal config d source p sequence) := by
  have fromServer : source.Equal d.serverAddress = source.Equal c.serverAddress := by
    cases alike with
    | mk serverAddress connectToken trace server => exact server.equal_eq source
  have state := alike.state
  have time : d.time = c.time := by
    cases alike
    rfl
  cases p with
  | connectionRequest | connectionResponse => exact .some alike
  | connectionDenied =>
    exact Lockstep.ite_iff (by rw [fromServer, state])
      (fun _ => .some (alike.leaves .connectionDenied)) fun _ => .some alike
  | connectionChallenge challengeTokenSequence challengeTokenData =>
    refine Lockstep.ite_iff (by rw [fromServer, state]) (fun _ => setState_alike quiet ?_ _)
      fun _ => .some alike
    cases alike with
    | mk serverAddress connectToken trace server token shows =>
      exact .mk serverAddress connectToken trace server token shows
  | connectionKeepAlive clientIndex maxClients =>
    rw [processKeepAlive_eq, processKeepAlive_eq]
    refine Lockstep.ite_iff (by rw [fromServer]) (fun _ => ?_) fun _ => .some alike
    refine Lockstep.ite_iff (by rw [state]) (fun _ => ?_) fun _ =>
      Lockstep.ite_iff (by rw [state]) (fun _ => setState_alike quiet ?_ _) fun _ => .some alike
    · cases alike with
      | mk serverAddress connectToken trace server token shows =>
        exact .some (.mk serverAddress connectToken trace server token shows)
    · cases alike with
      | mk serverAddress connectToken trace server token shows =>
        exact .mk serverAddress connectToken trace server token shows
  | connectionPayload payload =>
    refine Lockstep.ite_iff (by rw [fromServer, state]) (fun _ => .some ?_) fun _ => .some alike
    rw [time]
    exact (pushPayload_alike alike payload sequence).received c.time
  | connectionDisconnect =>
    exact Lockstep.ite_iff (by rw [fromServer, state])
      (fun _ => .some (alike.leaves .disconnected)) fun _ => .some alike

theorem applyReading_alike (alike : Alike base base' c d) (source : Address)
    (outcome : ReadOutcome) :
    Alike base base' (c.applyReading source outcome) (d.applyReading source outcome) := by
  cases alike with
  | mk serverAddress connectToken trace server token shows =>
    refine .mk serverAddress connectToken _ server token ?_
    unfold applyReading
    cases outcome.opened with
    | none => exact shows
    | some call => exact shows.cons (.same _)

theorem processPacket_alike (quiet : config.NonReentrant) (alike : Alike base base' c d)
    (source : Address) (data : Bytes) (currentTimestamp : UInt64) :
    Lockstep (Alike base base') (processPacket env config c source data currentTimestamp)
      (processPacket env config d source data currentTimestamp) := by
  by_cases keys : c.hasPacketKeys = true
  · have same : d.connectToken.protocolID = c.connectToken.protocolID ∧
        d.hasPacketKeys = c.hasPacketKeys ∧ d.readPacketKey = c.readPacketKey ∧
        d.replayProtection = c.replayProtection := by
      cases alike with
      | mk serverAddress connectToken trace server token shows =>
        obtain ⟨serverAddresses, same⟩ := token keys
        exact ⟨rfl, rfl, rfl, rfl⟩
    unfold processPacket
    rw [same.1, same.2.1, same.2.2.1, same.2.2.2]
    refine Lockstep.shared fun outcome => ?_
    have after := applyReading_alike alike source outcome
    dsimp only
    cases outcome.packet with
    | none => exact .some after
    | some packet => exact processPacketInternal_alike quiet after source packet outcome.sequence
  · have keyless : c.hasPacketKeys = false := by simpa using keys
    have keyless' : d.hasPacketKeys = false := by
      cases alike
      exact keyless
    rw [processPacket_keyless keyless, processPacket_keyless keyless']
    exact .some alike

theorem receivePackets_alike (quiet : config.NonReentrant) (alike : Alike base base' c d)
    (batch : List Datagram) :
    Lockstep (Alike base base') (receivePackets env config c batch)
      (receivePackets env config d batch) :=
  Lockstep.foldlM (fun _ _ datagram alike => processPacket_alike quiet alike datagram.source
    datagram.data datagram.currentTimestamp) batch c d alike

/-! ### Calls -/

theorem checkTimeouts_alike (quiet : config.NonReentrant) (alike : Alike base base' c d)
    (settled : c.Settled) (prepared : c.Prepared) (network : c.loopback = false) :
    Lockstep (Alike base base') (checkTimeouts env config c) (checkTimeouts env config d) := by
  have keyed : c.Active → c.hasPacketKeys = true := fun active => prepared.keyed active network
  have next : c.Active → ∀ destination,
      Lockstep (Alike base base') (connectToNextServerOrDisconnect env config c destination)
        (connectToNextServerOrDisconnect env config d destination) :=
    fun active => connectToNextServerOrDisconnect_alike quiet alike prepared (keyed active)
  have whole := alike
  by_cases active : c.Active
  · have same : d.connectToken.expireTimestamp = c.connectToken.expireTimestamp ∧
        d.connectToken.createTimestamp = c.connectToken.createTimestamp ∧
        d.timedOut env = c.timedOut env := by
      cases alike with
      | mk serverAddress connectToken trace server token shows =>
        obtain ⟨serverAddresses, same⟩ := token (keyed active)
        exact ⟨rfl, rfl, rfl⟩
    have fields : d.time = c.time ∧ d.connectStartTime = c.connectStartTime ∧
        d.shouldDisconnect = c.shouldDisconnect ∧
        d.shouldDisconnectState = c.shouldDisconnectState := by
      cases alike
      exact ⟨rfl, rfl, rfl, rfl⟩
    unfold checkTimeouts
    rw [alike.state, same.1, same.2.1, same.2.2, fields.1, fields.2.1, fields.2.2.1, fields.2.2.2]
    refine Lockstep.ite (fun _ => disconnectInternal_alike quiet alike prepared _ _) fun _ =>
      Lockstep.ite (fun _ => next active _) fun _ => ?_
    cases c.state with
    | sendingConnectionRequest | sendingConnectionResponse =>
      exact Lockstep.ite (fun _ => next active _) fun _ => .some alike
    | connected =>
      exact Lockstep.ite (fun _ => disconnectInternal_alike quiet alike prepared _ _)
        fun _ => .some alike
    | _ => exact .some alike
  · -- an idle client has not been told to leave
    have idle : ∀ {client : Client}, ¬ client.Active → client.shouldDisconnect = false →
        checkTimeouts env config client = some client := by
      intro client idle stays
      unfold checkTimeouts
      rw [if_neg fun expired => idle expired.1, stays, if_neg (by decide)]
      cases state : client.state with
      | sendingConnectionRequest | sendingConnectionResponse | connected =>
        exact absurd (active_of_state _ state (by decide)) idle
      | _ => rfl
    have stays : c.shouldDisconnect = false := by
      by_contra leaves
      exact active (settled.active (by simpa using leaves))
    have active' : ¬ d.Active := by
      unfold Active
      rw [alike.state]
      exact active
    have stays' : d.shouldDisconnect = false := by
      cases alike
      exact stays
    rw [idle active stays, idle active' stays']
    exact .some whole

theorem update_alike (quiet : config.NonReentrant) (alike : Alike base base' c d)
    (settled : c.Settled) (prepared : c.Prepared) (time : ℚ) (batch : List Datagram) :
    Lockstep (Alike base base') (update env config c time batch) (update env config d time batch) := by
  have ticked : Alike base base' { c with time := time } { d with time := time } := by
    cases alike with
    | mk serverAddress connectToken trace server token shows =>
      exact .mk serverAddress connectToken trace server token shows
  have first : Micro env false c { c with time := time } := .tick c time
  unfold update
  dsimp only
  refine Lockstep.ite_iff (by rw [alike.loopback]) (fun _ => .some ticked) fun network => ?_
  refine Lockstep.bind_of (receivePackets_alike quiet ticked batch) ?_
  intro middle middle' receives _ alike
  obtain ⟨chain, same, -⟩ := receivePackets_chain quiet receives
  have network : middle.loopback = false := same.trans (by simpa using network)
  have chain : ReflTransGen (Micro env false) c middle := .head first chain
  have sends : ReflTransGen (Micro env false) middle (sendPackets env middle) :=
    sendPackets_chain env network
  refine checkTimeouts_alike quiet ?_ (settled_of_chain settled (chain.trans sends))
    (prepared.chain (chain.trans sends)) ((sendPackets_loopback env middle).trans network)
  exact sendPackets_alike alike fun active => (prepared.chain chain).keyed active network

theorem sendPacket_alike (quiet : config.NonReentrant) (alike : Alike base base' c d)
    (prepared : c.Prepared) (payload : Bytes) :
    Lockstep (Alike base base') (sendPacket env config c payload)
      (sendPacket env config d payload) := by
  have state := alike.state
  unfold sendPacket
  refine Lockstep.ite (fun _ => .some alike) fun _ => ?_
  refine Lockstep.ite_iff (by rw [state]) (fun _ => .some alike) fun connected => ?_
  refine Lockstep.ite_iff (by rw [alike.loopback]) (fun network => .some ?_) fun _ => ?_
  · have active : c.Active := active_of_state _ (not_not.mp connected) (by decide)
    have keys := prepared.keyed active (by simpa using network)
    have noted : Alike base base' { c with trace := .submitted payload c.sequence :: c.trace }
        { d with trace := .submitted payload d.sequence :: d.trace } := by
      cases alike with
      | mk serverAddress connectToken trace server token shows =>
        exact .mk serverAddress connectToken _ server token (shows.cons (.same _))
    exact sendPacketToServerInternal_alike noted keys _
  · cases callback : config.sendLoopbackPacketCallback with
    | none => exact .none
    | some callback' =>
      simp only [Option.bind_eq_bind, Option.bind_some, quiet.sendLoopback callback' callback]
      cases alike with
      | mk serverAddress connectToken trace server token shows =>
        exact .some (.mk serverAddress connectToken _ server token (shows.cons (.same _)))

theorem receivePacket_alike (alike : Alike base base' c d) :
    Alike base base' c.receivePacket d.receivePacket := by
  cases alike with
  | mk serverAddress connectToken trace server token shows =>
    refine .mk (c := c.receivePacket) serverAddress connectToken
      (receivePacket { c with
        serverAddress := serverAddress
        connectToken := connectToken
        trace := trace }).trace server token ?_
    rw [receivePacket_trace, receivePacket_trace]
    exact shows.append _

theorem close_alike (quiet : config.NonReentrant) (alike : Alike base base' c d)
    (prepared : c.Prepared) :
    Lockstep (Alike base base') (close env config c) (close env config d) := by
  have cleared : ∀ c d, Alike base base' c d → Lockstep (Alike base base')
      (some { c with packetReceiveQueue := .clear })
      (some { d with packetReceiveQueue := .clear }) := by
    intro c d alike
    cases alike with
    | mk serverAddress connectToken trace server token shows =>
      exact .some (.mk serverAddress connectToken trace server token shows)
  unfold close
  refine Lockstep.bind (Lockstep.ite_iff (by rw [alike.loopback]) (fun _ => ?_) fun _ => ?_) cleared
  · exact disconnectInternal_alike quiet alike prepared _ _
  · exact resetConnectionData_alike quiet alike _

/-- **Alike clients stay alike.** -/
theorem step_alike (quiet : config.NonReentrant) (alike : Alike base base' c d)
    (settled : c.Settled) (prepared : c.Prepared) (whole : c.WholeArray) (whole' : d.WholeArray)
    (call : Call) :
    Lockstep (Alike base base') (step env config c call) (step env config d call) := by
  cases call with
  | connect data => exact connect_alike quiet alike prepared whole whole' data
  | update time batch => exact update_alike quiet alike settled prepared time batch
  | processPacket source data currentTimestamp =>
    exact processPacket_alike quiet alike source data currentTimestamp
  | sendPacket payload => exact sendPacket_alike quiet alike prepared payload
  | receivePacket => exact .some (receivePacket_alike alike)
  | disconnect => exact disconnectInternal_alike quiet alike prepared _ _
  | connectLoopback clientIndex maxClients =>
    cases alike with
    | mk serverAddress connectToken trace server token shows =>
      exact .some (.mk serverAddress connectToken trace server token shows)
  | disconnectLoopback => exact resetConnectionData_alike quiet alike _
  | processLoopbackPacket payload sequence =>
    show Lockstep _ (some (processLoopbackPacket c payload sequence))
      (some (processLoopbackPacket d payload sequence))
    unfold processLoopbackPacket
    rw [alike.loopback]
    refine .some ?_
    split_ifs
    · exact alike
    · exact alike
    · exact pushPayload_alike alike payload sequence
  | close => exact close_alike quiet alike prepared

/-- The client after more calls. -/
def after (env : Platform) (config : ClientConfig) (c : Client) (calls : List Call) : Go Client :=
  calls.foldlM (step env config) c

/-- **Alike clients cannot be told apart**, whatever is done with them. -/
theorem after_alike (quiet : config.NonReentrant) (later : List Call) :
    ∀ {calls calls' : List Call} {c d : Client}, Run env config calls c → Run env config calls' d →
      Alike base base' c d →
      Lockstep (Alike base base') (after env config c later) (after env config d later) := by
  induction later with
  | nil => exact fun _ _ alike => .some alike
  | cons call later ih =>
    intro calls calls' c d run run' alike
    unfold after
    rw [List.foldlM_cons, List.foldlM_cons]
    refine Lockstep.bind_of (step_alike quiet alike (run.settled quiet) (run.prepared quiet)
      (run.wholeArray quiet) (run'.wholeArray quiet) call) ?_
    exact fun c' d' done done' alike => ih (run.step call done) (run'.step call done') alike

end Alike

/-! ### Fresh sessions -/

/-- **A session at its very beginning**, with the keys and the first server of a token. -/
structure Fresh (token : ConnectToken) (c : Client) : Prop where
  state : c.state = .sendingConnectionRequest
  loopback : c.loopback = false
  sequence : c.sequence = 0
  replayProtection : c.replayProtection = .reset
  packetReceiveQueue : c.packetReceiveQueue = .clear
  challengeTokenSequence : c.challengeTokenSequence = 0
  challengeTokenData : c.challengeTokenData = .zero _
  clientIndex : c.clientIndex = 0
  maxClients : c.maxClients = 0
  shouldDisconnect : c.shouldDisconnect = false
  serverAddressIndex : c.serverAddressIndex = 0
  serverAddress : ∃ address, token.serverAddresses[0]? = some address ∧
    c.serverAddress.Same address
  readPacketKey : c.readPacketKey = token.serverToClientKey
  writePacketKey : c.writePacketKey = token.clientToServerKey
  hasPacketKeys : c.hasPacketKeys = true
  connectToken : c.connectToken.Alike token

/-- What `Connect` does with a good token, once the client is idle. -/
theorem connect_eq (quiet : config.NonReentrant) {left : Client} {data : Bytes}
    {token : ConnectToken} {address : Address} (leaves : disconnect env config c = some left)
    (reads : left.connectToken.read data = some (token, true))
    (first : token.serverAddresses[0]? = some address) :
    connect env config c data = some (withState (beginConnect env
      { left with connectToken := token } token address) .sendingConnectionRequest) := by
  unfold connect
  rw [leaves, Option.bind_eq_bind, Option.bind_some, reads, Option.bind_eq_bind, Option.bind_some]
  dsimp only
  rw [if_neg (by decide), first, Option.bind_eq_bind, Option.bind_some, setState_eq quiet]

/-- **Nothing is left of the past** once a token is taken up. -/
theorem Blank.beginConnect_alike {left : Client} (blank : left.Blank) {token token' : ConnectToken}
    (tokens : token.Alike token') {address address' : Address} (same : address.Same address') :
    Alike
      (withState (beginConnect env { left with connectToken := token } token address)
        .sendingConnectionRequest).trace
      (withState (beginConnect env { new left.time with connectToken := token' } token' address')
        .sendingConnectionRequest).trace
      (withState (beginConnect env { left with connectToken := token } token address)
        .sendingConnectionRequest)
      (withState (beginConnect env { new left.time with connectToken := token' } token' address')
        .sendingConnectionRequest) := by
  have whole := tokens
  obtain ⟨serverAddresses, addresses⟩ := tokens
  rw [blank.eq_with]
  exact .mk address' _ _ same (fun _ => whole) ⟨[], [], rfl, rfl, .nil⟩

theorem connect_fresh (quiet : config.NonReentrant) (prepared : c.Prepared) (whole : c.WholeArray)
    {data : Bytes} {token : ConnectToken}
    (reads : ConnectToken.read .empty data = some (token, true)) :
    ∃ fresh other, connect env config c data = some fresh ∧
      connect env config (new c.time) data = some other ∧ Fresh token fresh ∧
      Alike fresh.trace other.trace fresh other := by
  obtain ⟨left, leaves, -⟩ := disconnect_token env quiet c
  obtain ⟨prepared, idle⟩ := disconnect_prepared quiet prepared leaves
  have blank := prepared.blank idle
  have empty : ConnectToken.empty.serverAddresses.length = MaxServersPerConnect :=
    List.length_replicate
  have both := ConnectToken.read_alike ((disconnect_array quiet whole leaves).trans empty.symm) data
  rw [reads] at both
  obtain ⟨⟨token', good⟩, reads', same, alike⟩ : ∃ read, left.connectToken.read data = some read ∧
      ConnectToken.ReadAlike read (token, true) := by
    generalize left.connectToken.read data = result at both
    cases both with
    | some related => exact ⟨_, rfl, related⟩
  obtain rfl : true = good := same
  obtain ⟨positive, tokens⟩ := alike rfl
  -- the first address of either token
  have inside : 0 < token.serverAddresses.length := by
    rw [ConnectToken.read_array reads, empty]
    decide
  have first := List.getElem?_eq_getElem inside
  generalize token.serverAddresses[0] = address at first
  obtain ⟨address', first', same⟩ : ∃ address', token'.serverAddresses[0]? = some address' ∧
      address'.Same address := by
    have rel : Option.Rel Address.Same token'.serverAddresses[0]? token.serverAddresses[0]? := by
      cases tokens with
      | mk serverAddresses same => exact same 0 positive
    rw [first] at rel
    generalize token'.serverAddresses[0]? = found at rel
    cases rel with
    | some same => exact ⟨_, rfl, same⟩
  refine ⟨_, _, connect_eq quiet leaves reads' first',
    connect_eq quiet (show disconnect env config (new c.time) = some (new c.time) from rfl) reads
      first, ?_, ?_⟩
  · exact
      { state := rfl
        loopback := blank.loopback
        sequence := blank.sequence
        replayProtection := rfl
        packetReceiveQueue := blank.packetReceiveQueue
        challengeTokenSequence := rfl
        challengeTokenData := rfl
        clientIndex := blank.clientIndex
        maxClients := blank.maxClients
        shouldDisconnect := rfl
        serverAddressIndex := rfl
        serverAddress := ⟨address, first, same⟩
        readPacketKey := (by cases tokens; rfl)
        writePacketKey := (by cases tokens; rfl)
        hasPacketKeys := rfl
        connectToken := tokens }
  · have time := disconnectInternal_time quiet leaves
    rw [← time]
    exact blank.beginConnect_alike tokens same

/-- **Every connect starts a fresh session.** Whatever was done with a client, once it connects with a
token that is accepted it holds that token's keys and nothing of the past, and from then on it cannot
be told from a new client that was given the same token at the same time. A client that is neither
connecting nor connected has no keys and returns no payload. -/
theorem connect_starts_fresh (env : Platform) (config : ClientConfig) (quiet : config.NonReentrant)
    {calls : List Call} (c : Client) (run : Run env config calls c) :
    (∀ (data : Bytes) (token : ConnectToken),
      ConnectToken.read .empty data = some (token, true) →
      ∃ fresh other, connect env config c data = some fresh ∧
        connect env config (new c.time) data = some other ∧ Fresh token fresh ∧
        ∀ later : List Call, Lockstep (Alike fresh.trace other.trace)
          (after env config fresh later) (after env config other later)) ∧
    (c.state.code ≤ ClientState.disconnected.code →
      c.hasPacketKeys = false ∧ c.readPacketKey = .zero _ ∧ c.writePacketKey = .zero _ ∧
        c.connectToken.clientToServerKey = .zero _ ∧ c.connectToken.serverToClientKey = .zero _ ∧
        c.packetReceiveQueue.pop.2.1 = none) := by
  have prepared := run.prepared quiet
  constructor
  · intro data token reads
    obtain ⟨fresh, other, connects, connects', isFresh, alike⟩ :=
      @connect_fresh env config c quiet prepared (run.wholeArray quiet) data token reads
    refine ⟨fresh, other, connects, connects', isFresh, fun later => ?_⟩
    exact after_alike quiet later (run.step (.connect data) connects)
      ((Run.new c.time).step (.connect data) connects') alike
  · intro idle
    have blank := prepared.blank (not_lt.mpr idle)
    refine ⟨blank.hasPacketKeys, blank.readPacketKey, blank.writePacketKey, blank.tokenKeys.1,
      blank.tokenKeys.2, ?_⟩
    rw [blank.packetReceiveQueue]
    rfl

/-- A client that was given an empty buffer, and then a good token. -/
theorem connect_starts_fresh_rejected :
    let rejected := (new 0).withState .invalidConnectToken
    let token := Sample.publicToken Sample.first 2000 [Sample.serverAddress]
    rejected.hasPacketKeys = false ∧ rejected.packetReceiveQueue.pop.2.1 = none ∧
      ∃ data fresh other, token.write = some data ∧
        connect samplePlatform Sample.clientConfig rejected data.bytes = some fresh ∧
        connect samplePlatform Sample.clientConfig (new 0) data.bytes = some other ∧
        Fresh token fresh ∧ ∀ later : List Call, Lockstep (Alike fresh.trace other.trace)
          (after samplePlatform Sample.clientConfig fresh later)
          (after samplePlatform Sample.clientConfig other later) := by
  have run : Run samplePlatform Sample.clientConfig [.connect []]
      ((new 0).withState .invalidConnectToken) := .step (.new 0) (.connect []) rfl
  obtain ⟨starts, idle⟩ := connect_starts_fresh samplePlatform Sample.clientConfig
    Sample.clientConfig_nonReentrant _ run
  obtain ⟨hasNone, -, -, -, -, nothing⟩ := idle (by decide)
  have wellFormed : (Sample.publicToken Sample.first 2000 [Sample.serverAddress]).WellFormed := by
    refine ⟨by decide, by decide, by decide, ?_, by decide, by decide⟩
    unfold Address.Over
    decide
  obtain ⟨data, writes, reads⟩ := wellFormed.read_write
  obtain ⟨fresh, other, connects, connects', isFresh, alike⟩ := starts data.bytes _ reads
  exact ⟨hasNone, nothing, data, fresh, other, writes, connects, connects', isFresh, alike⟩

end Client

end Netcode
