/-
**A client that may connect does connect.**

The handshake is put together from its two halves: a token the backend generated, a client that has
just taken it up, and a server in any state a run reaches, with other clients, other tokens and other
mappings in its tables. If the server can admit the token and the four messages are exchanged in
time, the client ends up connected, with the number of the slot that the server gave it.

* `Client.Connecting.handshaking` — what `Connect` leaves is a client in a handshake;
* `handshake_completes` — **request, challenge, response and keep-alive connect the client.**
-/

import Mathlib.Tactic.NormNum
import Netcode.Client.Handshake
import Netcode.Codec.Pipeline
import Netcode.Server.Handshake

namespace Netcode

/-- The MAC of the private connect token, at its end. -/
def ConnectToken.mac (token : ConnectToken) : Mac :=
  .copyFrom MacBytes (token.privateData.bytes.drop (connectTokenPrivateBytes - MacBytes))

/-- A slot number passes through the keep-alive. -/
theorem toInt_ofNat_slot {n : Nat} (small : n ≤ MaxClients) : (Int32.ofNat n).toInt = n := by
  have small : n ≤ 256 := small
  rw [Int32.toInt_ofNat', Int32.size]
  exact Int.bmod_eq_of_le (by omega) (by omega)

/-- **The client's `Update`s**: the first one sends the request, the second one the response, each
after the send interval. The client has not given up on its server when it asks, and its token has
not run out when it answers. -/
structure Client.Timely (env : Platform) (first : Client) (time₁ time₂ time₃ : ℚ) : Prop where
  isFloat₁ : env.IsFloat64 time₁
  isFloat₂ : env.IsFloat64 time₂
  isFloat₃ : env.IsFloat64 time₃
  asks : Due env first.lastPacketSendTime time₁
  answers : Due env time₁ time₂
  patient : 0 < first.connectToken.timeoutSeconds →
    time₁ ≤ env.float64 (first.time + first.connectToken.timeoutSeconds.toInt)
  lasts : InLifetime env first.connectToken first.time time₂

/-- The send interval is not negative, so that the second `Update` is not before the first. -/
theorem Client.Timely.forward {env : Platform} {first : Client} {time₁ time₂ time₃ : ℚ}
    (timely : first.Timely env time₁ time₂ time₃) : time₁ ≤ time₂ := by
  exact (timely.isFloat₁.le_add env.interval_nonneg).trans timely.answers.le

section Handshake

variable {env : Platform} {netip : Netip} {random : TokenRandom} {now : UnixTime}
  {publicServerAddresses internalServerAddresses : List Bytes} {expireSeconds timeoutSeconds : Int64}
  {clientID : UInt64} {userData data : Bytes} {internalAddresses : List Address}

/-- **What `Connect` leaves of a generated token**: a client in a handshake, whose request a server
with the private key can open. -/
theorem connect_handshaking {clientConfig : ClientConfig} {calls : List Client.Call}
    {c first : Client} {protocolID : UInt64} {privateKey : Key} (quiet : clientConfig.NonReentrant)
    (run : Client.Run env clientConfig calls c)
    (generated : generateConnectToken env netip random now publicServerAddresses
      internalServerAddresses expireSeconds timeoutSeconds clientID protocolID privateKey.bytes
      userData = some (.ok data))
    (parsed : internalServerAddresses.mapM (parseAddress netip) = .ok internalAddresses)
    (connects : Client.connect env clientConfig c data = some first) :
    Client.Handshaking first.connectToken first.serverAddress first.time .sendingConnectionRequest
        first ∧ first.lastPacketReceiveTime = first.time ∧
      first.connectToken.protocolID = protocolID ∧
      first.connectToken.expireTimestamp = expireTimestampOf now.seconds expireSeconds ∧
      first.connectToken.clientToServerKey = random.clientToServerKey ∧
      first.connectToken.serverToClientKey = random.serverToClientKey ∧
      ∃ tokenData : FixedBytes connectTokenPrivateBytes,
        first.connectToken.privateData.bytes = (encryptConnectTokenPrivate env tokenData protocolID
          first.connectToken.expireTimestamp first.connectToken.nonce privateKey).ciphertext ∧
        ∀ mac : Bytes, mac.length = MacBytes → ConnectTokenPrivate.read
            (tokenData.bytes.take (connectTokenPrivateBytes - MacBytes) ++ mac) =
          some (some (generateConnectTokenPrivate clientID timeoutSeconds.toInt32 internalAddresses
            userData random)) := by
  obtain ⟨publicAddresses, internalAddresses', key, isKey, parsesPublic, parsesInternal, some_address,
    few_addresses, same_number, -, output⟩ := generateConnectToken_ok generated
  cases parsed.symm.trans parsesInternal
  obtain rfl : key = privateKey := FixedBytes.ext isKey
  obtain ⟨token, tokenData, written, rfl, writes, wellFormed, isProtocol, isNonce, isExpire, -, -,
    isClientKey, isServerKey, isPrivate, readsPrivate⟩ := sealConnectToken_spec some_address
      few_addresses same_number (parsed_spec parsesPublic).2 (parsed_spec parsesInternal).2 output
  obtain ⟨left, addresses, serverAddress, accepts, -⟩ := @Client.connect_accepts env clientConfig c
    quiet (run.wholeArray quiet) token written wellFormed writes
  have network : first.loopback = false :=
    Client.Connecting.network (.inl (by cases connects.symm.trans accepts; rfl))
      (Client.Run.loopbackConnected quiet (.step run (.connect written.bytes) connects))
  cases connects.symm.trans accepts
  refine ⟨⟨rfl, network, rfl, rfl, rfl, rfl, rfl, rfl, rfl, rfl⟩, rfl, isProtocol, isExpire,
    isClientKey, isServerKey, tokenData, ?_, readsPrivate⟩
  show token.privateData.bytes = (encryptConnectTokenPrivate env tokenData protocolID
    token.expireTimestamp token.nonce key).ciphertext
  rw [isPrivate, isExpire, isNonce]

/-- **The handshake completes.** Let a server be in any state a run reaches, and a client, in any
state, take up a token that the backend generated for the server's key and protocol id. If the server
can admit the token from the client's address when the request arrives, then

* the client's first `Update` sends a request, which the server answers with a challenge;
* however long the server goes on updating, as long as the mapping has not expired: the `Update` in
  which the client receives the challenge sends a response, which the server answers with a
  keep-alive from the slot it gave the client, the first free one;
* the `Update` in which the client receives that leaves it connected, with the number of the slot and
  the number of slots of the server.

The client's `Update`s are timely, and what the server sends reaches the client from the address it
knows the server by. -/
theorem handshake_completes {config : ServerConfig} {clientConfig : ClientConfig}
    {calls : List Server.Call} {s : Server} {clientCalls : List Client.Call} {c first : Client}
    {source serverSource : Address} {arrival : Server.Arrival} {time₁ time₂ time₃ : ℚ}
    (quiet : config.NonReentrant) (quietClient : clientConfig.NonReentrant)
    (run : Server.Run env config calls s) (running : s.running = true)
    (clientRun : Client.Run env clientConfig clientCalls c)
    (generated : generateConnectToken env netip random now publicServerAddresses
      internalServerAddresses expireSeconds timeoutSeconds clientID config.protocolID
      config.privateKey.bytes userData = some (.ok data))
    (parsed : internalServerAddresses.mapM (parseAddress netip) = .ok internalAddresses)
    (connects : Client.connect env clientConfig c data = some first)
    (timely : first.Timely env time₁ time₂ time₃)
    (fromServer : serverSource.Equal first.serverAddress = true)
    (after : arrival.After env s)
    (admits : s.CanAdmit env arrival source (generateConnectTokenPrivate clientID
      timeoutSeconds.toInt32 internalAddresses userData random)
      (expireTimestampOf now.seconds expireSeconds) first.connectToken.mac) :
    ∃ second s₁ request challenge,
      Client.update env clientConfig first time₁ [] = some second ∧
      second.trace.head? = some (.sent first.serverAddress request) ∧
      Server.handle env config s arrival source request = some s₁ ∧
      s₁.trace.head? = some (.sent source challenge) ∧ s₁.time = arrival.time ∧
      ∀ s₂ arrival₂ reading₂ reading₃, Server.Idles env config s₁ s₂ → arrival₂.After env s₂ →
        (0 ≤ timeoutSeconds.toInt32 →
          arrival₂.time ≤ env.float64 (arrival.time + timeoutSeconds.toInt32.toInt)) →
        ∃ third s₃ last response keepAlive, ∃ i : Nat,
          Client.update env clientConfig second time₂ [⟨serverSource, challenge, reading₂⟩] =
            some third ∧
          third.trace.head? = some (.sent first.serverAddress response) ∧
          Server.handle env config s₂ arrival₂ source response = some s₃ ∧
          s₃.trace.head? = some (.sent source keepAlive) ∧
          Client.update env clientConfig third time₃ [⟨serverSource, keepAlive, reading₃⟩] =
            some last ∧
          last.state = .connected ∧ last.loopback = false ∧ last.clientIndex = i ∧
          last.maxClients = s.maxClients ∧ s₂.findFreeClientIndex = some i ∧
          (s₃.clients i).connected = true ∧ (s₃.clients i).loopback = false ∧
          (s₃.clients i).clientID = clientID ∧ (s₃.clients i).address = source ∧
          (s₃.clients i).userData = .copyFrom UserDataBytes userData := by
  obtain ⟨handshaking, heard, isProtocol, isExpire, isClientKey, isServerKey, tokenData, sealedData,
    readsPrivate⟩ := connect_handshaking quietClient clientRun generated parsed connects
  -- the request
  have lasts : Client.InLifetime env first.connectToken first.time time₁ :=
    (env.float64_mono (sub_le_sub_right timely.forward _)).trans_lt timely.lasts
  obtain ⟨second, asks, handshaking₂, sent, sentAt⟩ := @Client.Handshaking.update_request env
    clientConfig first first.connectToken first.serverAddress first.time time₁ handshaking timely.asks
    lasts (by rw [heard]; exact timely.patient)
  rw [isProtocol] at sent
  obtain ⟨front, macLength, opened⟩ := openedToken_bytes tokenData first.connectToken.privateData
  obtain ⟨s₁, e, handled, challenged, sameTime, waiting⟩ :=
    @Server.handle_request env config s _ source quiet run running arrival after _ _ _
      (writePacket env first.requestPacket first.sequence first.connectToken.clientToServerKey
        config.protocolID) _ rfl
    (by
      simp only [Client.requestPacket, writePacket, List.cons_append, List.length_cons,
        List.length_append, FixedBytes.length_eq, connectTokenPrivateBytes]
      omega)
    (fun key window => readPacket_request first.sequence first.connectToken.clientToServerKey rfl rfl
      isProtocol (isExpire ▸ admits.unexpired) (isExpire ▸ admits.afterStart) sealedData)
    (by rw [opened]; exact readsPrivate _ macLength)
    (by
      unfold Server.requestMac
      dsimp only
      rw [opened, List.drop_left' front]
      exact admits)
  refine ⟨second, s₁, _, _, asks, by rw [sent]; rfl, handled, challenged, sameTime, ?_⟩
  intro s₂ arrival₂ reading₂ reading₃ idles after₂ inTime
  -- the response
  have waiting := waiting.idles quiet idles fun given => after₂.1.trans (inTime given)
  have waiting := waiting.tick after₂.1 inTime (.clock arrival₂.currentTimestamp)
  obtain ⟨third, answers, handshaking₃, responds⟩ := @Client.Handshaking.update_challenge env
    clientConfig second first.connectToken first.serverAddress serverSource first.time time₂
    quietClient handshaking₂ fromServer timely.isFloat₂ (sentAt ▸ timely.answers) timely.lasts
    s.challengeSequence s.globalSequence reading₂ (Server.challengeFor env
      (generateConnectTokenPrivate clientID timeoutSeconds.toInt32 internalAddresses userData random)
      s.challengeSequence s.challengeKey)
  obtain ⟨s₃, i, responded, free, keptAlive, slot⟩ := waiting.respond quiet second.sequence
    s.challengeSequence arrival₂.currentTimestamp arrival₂.reading
  -- the keep-alive
  obtain ⟨last, finishes, connected, network, index, count⟩ :=
    @Client.Handshaking.update_keepAlive env clientConfig third first.connectToken first.serverAddress
      serverSource first.time time₃ quietClient handshaking₃ fromServer timely.isFloat₃ (Int32.ofNat i)
      (Int32.ofNat s.maxClients) reading₃
  rw [isProtocol, isServerKey] at answers finishes
  rw [isProtocol, isClientKey] at responds
  have size : s.maxClients ≤ MaxClients := (run.reached.ok quiet).1.size
  have small : i < s.maxClients :=
    (Server.findFreeClientIndex_eq_some free).1.trans_eq waiting.maxClients
  rw [toInt_ofNat_slot (small.le.trans size)] at index
  rw [toInt_ofNat_slot size] at count
  exact ⟨third, s₃, last, _, _, i, answers, responds, responded, keptAlive, finishes, connected, network,
    index, count, free, slot.1, slot.2.1, slot.2.2.1, slot.2.2.2.2.1, slot.2.2.2.1⟩

/-- What `Sample.addressTexts` are parsed to. -/
def Sample.addresses : List Address :=
  [Sample.serverAddress, ⟨AddressIPv6, .zero 4, ⟨[0, 0, 0, 0, 0, 0, 0, 1], rfl⟩, 40000⟩]

theorem Sample.parses :
    Sample.addressTexts.mapM (parseAddress Sample.netip) = .ok Sample.addresses := by
  decide +kernel

/-- The keys of a generated token. -/
def Sample.tokenRandom : TokenRandom := ⟨Sample.nonce, Sample.key 21, Sample.key 22⟩

def Sample.unixTime : UnixTime := ⟨1000, by decide⟩

/-- What the backend generates for a client of the sample server. -/
def Sample.generated : Go (Except TokenError Bytes) :=
  generateConnectToken samplePlatform Sample.netip Sample.tokenRandom Sample.unixTime
    Sample.addressTexts Sample.addressTexts 30 10 2 Sample.protocolID Sample.config.privateKey.bytes
    [1, 2, 3]

/-- A new client takes up the token, and two updates follow in time. -/
theorem Sample.takesUp : ∃ data first, Sample.generated = some (.ok data) ∧
    Client.connect samplePlatform Sample.clientConfig (Client.new 0) data = some first ∧
    first.serverAddress = Sample.serverAddress ∧ first.connectToken.timeoutSeconds = 10 ∧
    first.Timely samplePlatform 0 1 1 := by
  have connects : (Sample.generated.bind fun result => result.toOption).bind (fun data =>
      (Client.connect samplePlatform Sample.clientConfig (Client.new 0) data).map fun first =>
        (first.serverAddress, first.time, first.lastPacketSendTime,
          first.connectToken.expireTimestamp - first.connectToken.createTimestamp,
          first.connectToken.timeoutSeconds)) = some (Sample.serverAddress, 0, -1, 30, 10) := by
    decide +kernel
  obtain ⟨data, generates, connects⟩ := Option.bind_eq_some_iff.mp connects
  obtain ⟨result, generates, isOk⟩ := Option.bind_eq_some_iff.mp generates
  obtain ⟨first, connects, fields⟩ := Option.map_eq_some_iff.mp connects
  simp only [Prod.mk.injEq] at fields
  obtain ⟨server, start, sent, lifetime, timeout⟩ := fields
  obtain rfl : result = .ok data := by
    cases result with
    | error error => cases isOk
    | ok data' => exact congrArg _ (Option.some_inj.mp isOk)
  refine ⟨data, first, generates, connects, server, timeout, rfl, rfl, rfl, ?_, ?_, fun _ => ?_, ?_⟩
  · show first.lastPacketSendTime + 1 / 10 < (0 : ℚ)
    rw [sent]
    norm_num
  · show (0 : ℚ) + 1 / 10 < 1
    norm_num
  · show (0 : ℚ) ≤ first.time + first.connectToken.timeoutSeconds.toInt
    rw [start, timeout]
    show (0 : ℚ) ≤ 0 + (10 : Int)
    norm_num
  · show (1 : ℚ) - first.time < ((first.connectToken.expireTimestamp -
      first.connectToken.createTimestamp).toNat : ℚ)
    rw [start, lifetime]
    show (1 : ℚ) - 0 < (30 : Nat)
    norm_num

/-- Start two slots at second 1000, and connect a loopback client to the first. -/
def Sample.connectLoopback : List Server.Call :=
  [.start 2 Sample.challengeKey 1000, .connectLoopbackClient 0 1 []]

/-- **The second client of a server**: its token is for two addresses, and the first slot is taken. -/
theorem handshake_completes_second :
    ∃ s data, ∃ first second third last : Client, ∃ s₁ s₃ : Server,
      ∃ request challenge response keepAlive,
      Server.execute samplePlatform Sample.config Sample.server Sample.connectLoopback = some s ∧
      (s.clients 0).connected = true ∧
      generateConnectToken samplePlatform Sample.netip ⟨Sample.nonce, Sample.key 21, Sample.key 22⟩
        ⟨1000, by decide⟩ Sample.addressTexts Sample.addressTexts 30 10 2 Sample.protocolID
        Sample.config.privateKey.bytes [1, 2, 3] = some (.ok data) ∧
      Client.connect samplePlatform Sample.clientConfig (Client.new 0) data = some first ∧
      Client.update samplePlatform Sample.clientConfig first 0 [] = some second ∧
      second.trace.head? = some (.sent Sample.serverAddress request) ∧
      Server.handle samplePlatform Sample.config s ⟨0, 1001, 1001⟩ Sample.secondAddress request =
        some s₁ ∧
      s₁.trace.head? = some (.sent Sample.secondAddress challenge) ∧
      Client.update samplePlatform Sample.clientConfig second 1
        [⟨Sample.serverAddress, challenge, 1001⟩] = some third ∧
      third.trace.head? = some (.sent Sample.serverAddress response) ∧
      Server.handle samplePlatform Sample.config s₁ ⟨1, 1002, 1002⟩ Sample.secondAddress response =
        some s₃ ∧
      s₃.trace.head? = some (.sent Sample.secondAddress keepAlive) ∧
      Client.update samplePlatform Sample.clientConfig third 1
        [⟨Sample.serverAddress, keepAlive, 1002⟩] = some last ∧
      last.state = .connected ∧ last.maxClients = 2 ∧
      ∃ i : Nat, last.clientIndex = i ∧ (s₃.clients i).clientID = 2 := by
  have serves : (Server.execute samplePlatform Sample.config Sample.server Sample.connectLoopback).map
      (fun s => decide (s.running = true ∧ s.time = 0 ∧ s.address.Equal Sample.serverAddress = true ∧
        s.maxClients = 2 ∧
        (s.clients 0).connected = true ∧ (s.clients 1).connected = false ∧
        (s.clients 0).address.Equal Sample.secondAddress = false ∧ (s.clients 0).clientID ≠ 2 ∧
        s.minConnectTokenExpireTimestamp ≤ 1030 ∧
        (s.encryptionManager.mapping 1).address.type = AddressNone)) = some true := by
    decide +kernel
  have forgets : (Server.execute samplePlatform Sample.config Sample.server
      Sample.connectLoopback).map Server.connectTokenEntries = some connectTokenEntriesReset := rfl
  obtain ⟨s, executes, checks⟩ := Option.map_eq_some_iff.mp serves
  obtain ⟨running, isTime, isAddress, slots, taken, free, otherAddress, otherID, afterStart, room⟩ :=
    of_decide_eq_true checks
  rw [executes, Option.map_some, Option.some_inj] at forgets
  obtain ⟨data, first, generates, connects, server, -, timely⟩ := Sample.takesUp
  have run := Server.Run.execute Sample.server_run executes
  have onlyFirst : ∀ i, (s.clients i).connected = true → i = 0 := by
    intro i connected
    have small := (run.binding Sample.config_nonReentrant).inUse connected
    by_contra other
    obtain rfl : i = 1 := by omega
    rw [free] at connected
    cases connected
  have admits : s.CanAdmit samplePlatform ⟨0, 1001, 1001⟩ Sample.secondAddress
      (generateConnectTokenPrivate 2 (10 : Int64).toInt32 Sample.addresses [1, 2, 3]
        ⟨Sample.nonce, Sample.key 21, Sample.key 22⟩)
      (expireTimestampOf 1000 30) first.connectToken.mac :=
    { usable := rfl
      unexpired := by decide
      afterStart := afterStart
      listed := List.any_eq_true.mpr ⟨Sample.serverAddress, List.mem_cons_self, by
        rw [isAddress, Bool.true_or]⟩
      strangerAddress := fun i connected => by rw [onlyFirst i connected]; exact otherAddress
      strangerID := fun i connected => by rw [onlyFirst i connected]; exact otherID
      history := by
        rw [forgets]
        exact .inl ⟨fun i _ used => absurd rfl used, 1, by decide, .inl rfl⟩
      free := ⟨1, by rw [slots]; decide, free⟩
      room := ⟨1, by decide, .inl room⟩ }
  obtain ⟨second, s₁, request, challenge, asks, sentRequest, handled, challenged, sameTime,
    completes⟩ :=
    handshake_completes Sample.config_nonReentrant Sample.clientConfig_nonReentrant run running (.new 0)
      generates Sample.parses connects timely (show Sample.serverAddress.Equal first.serverAddress = true by
        rw [server]; rfl) ⟨isTime.le, rfl⟩ admits
  have after : (⟨1, 1002, 1002⟩ : Server.Arrival).After samplePlatform s₁ := by
    refine ⟨?_, rfl⟩
    rw [sameTime]
    norm_num
  obtain ⟨third, s₃, last, response, keepAlive, i, answers, sentResponse, responded, keptAlive,
    finishes, connected, -, index, count, -, -, -, isID, -, -⟩ :=
      completes s₁ ⟨1, 1002, 1002⟩ 1001 1002 (.refl s₁) after
        fun _ => show (1 : ℚ) ≤ 0 + (10 : Int) by norm_num
  rw [server] at sentRequest sentResponse
  rw [slots] at count
  exact ⟨s, data, first, second, third, last, s₁, s₃, request, challenge, response, keepAlive,
    executes, taken, generates, connects, asks, sentRequest, handled, challenged, answers, sentResponse,
    responded, keptAlive, finishes, connected, count, i, index, isID⟩

end Handshake

end Netcode
