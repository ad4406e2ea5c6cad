/-
**From the backend to the server.**

A connect token passes three parties: `GenerateConnectToken` writes it, the client reads the public
part and sends the sealed private part in its connection request, the server opens and reads that.

* `sealConnectToken_spec` — **what the backend returns**: a well formed public token around a sealed
  well formed private one;
* `connect_accepts` — **`Connect` accepts it in any state of the client**, also over a former token
  whose unused address fields stay in the array;
* `connect_token_pipeline` — **the server reads what the backend was given.**
-/

import Netcode.Client.Steps
import Netcode.Codec.Packets
import Netcode.Codec.Tokens
import Netcode.Model.Generate

namespace Netcode

/-! ### Parsed addresses -/

theorem bind_eq_ok {α β ε : Type} {first : Except ε α} {next : α → Except ε β} {result : β}
    (ends : (first >>= next) = .ok result) : ∃ value, first = .ok value ∧ next value = .ok result := by
  cases first with
  | error error => cases ends
  | ok value => exact ⟨value, rfl, ends⟩

/-- **`ParseAddress` gives addresses of a known family**, with the fields of the other one zero. -/
theorem parseAddress_over {netip : Netip} {text : Bytes} {address : Address}
    (parses : parseAddress netip text = .ok address) : Address.none.Over address := by
  unfold parseAddress at parses
  obtain ⟨⟨s, port⟩, -, parses⟩ := bind_eq_ok parses
  dsimp only at parses
  split at parses
  · cases parses
    exact .inr ⟨rfl, rfl⟩
  · obtain ⟨⟨s', port'⟩, -, parses⟩ := bind_eq_ok parses
    dsimp only at parses
    split at parses
    · cases parses
      exact .inl ⟨rfl, rfl⟩
    · cases parses

/-- What `mapM` collects. -/
theorem forall₂_of_mapM {α β ε : Type} {f : α → Except ε β} {xs : List α} {ys : List β}
    (maps : xs.mapM f = .ok ys) : List.Forall₂ (fun x y => f x = .ok y) xs ys := by
  induction xs generalizing ys with
  | nil =>
    cases maps
    exact .nil
  | cons x xs ih =>
    rw [List.mapM_cons] at maps
    obtain ⟨y, first, maps⟩ := bind_eq_ok maps
    obtain ⟨ys', others, maps⟩ := bind_eq_ok maps
    cases maps
    exact .cons first (ih others)

theorem parsed_spec {netip : Netip} {texts : List Bytes} {addresses : List Address}
    (parses : texts.mapM (parseAddress netip) = .ok addresses) :
    addresses.length = texts.length ∧ ∀ address ∈ addresses, Address.none.Over address := by
  have parsed := forall₂_of_mapM parses
  refine ⟨parsed.length_eq.symm, ?_⟩
  clear parses
  induction parsed with
  | nil => exact fun _ mem => by cases mem
  | cons first _ ih =>
    intro address mem
    rcases List.mem_cons.mp mem with rfl | mem
    · exact parseAddress_over first
    · exact ih address mem

/-! ### The backend -/

/-- **A token never expires before it was created.** -/
theorem le_expireTimestampOf (now : UnixTime) (expireSeconds : Int64) :
    now.seconds ≤ expireTimestampOf now.seconds expireSeconds := by
  unfold expireTimestampOf
  split_ifs with expires
  · -- both numbers are below 2^63, so the sum does not wrap
    have small := now.nonneg
    have seconds : expireSeconds.toUInt64.toNat < 2 ^ 63 := by
      rw [Int64.toNat_toUInt64_of_le expires]
      have bound := Int64.toInt_lt expireSeconds
      unfold Int64.toNatClampNeg
      omega
    rw [UInt64.le_iff_toNat_le, UInt64.toNat_add]
    omega
  · rw [UInt64.le_iff_toNat_le]
    exact Nat.le_of_lt_succ now.seconds.toNat_lt

section Backend

variable {env : Platform} {random : TokenRandom} {now : UnixTime}
  {publicAddresses internalAddresses : List Address} {expireSeconds timeoutSeconds : Int64}
  {clientID protocolID : UInt64} {privateKey : Key} {userData output : Bytes}

/-- **What the backend returns**: the bytes of a well formed public token, whose private part is a
well formed private token, sealed for the same protocol id and expire timestamp. -/
theorem sealConnectToken_spec (some_address : 1 ≤ publicAddresses.length)
    (few_addresses : publicAddresses.length ≤ MaxServersPerConnect)
    (same_number : internalAddresses.length = publicAddresses.length)
    (knownPublic : ∀ address ∈ publicAddresses, Address.none.Over address)
    (knownInternal : ∀ address ∈ internalAddresses, Address.none.Over address)
    (seals : sealConnectToken env random now publicAddresses internalAddresses expireSeconds
      timeoutSeconds clientID protocolID privateKey userData = some output) :
    ∃ (token : ConnectToken) (data : FixedBytes connectTokenPrivateBytes)
      (written : FixedBytes ConnectTokenBytes),
      written.bytes = output ∧ token.write = some written ∧ token.WellFormed ∧
        token.protocolID = protocolID ∧ token.nonce = random.nonce ∧
        token.expireTimestamp = expireTimestampOf now.seconds expireSeconds ∧
        token.numServerAddresses = publicAddresses.length ∧
        token.serverAddresses.take publicAddresses.length = publicAddresses ∧
        token.clientToServerKey = random.clientToServerKey ∧
        token.serverToClientKey = random.serverToClientKey ∧
        token.privateData.bytes = (encryptConnectTokenPrivate env data protocolID
          (expireTimestampOf now.seconds expireSeconds) random.nonce privateKey).ciphertext ∧
        ∀ mac : Bytes, mac.length = MacBytes → ConnectTokenPrivate.read
            (data.bytes.take (connectTokenPrivateBytes - MacBytes) ++ mac) =
          some (some (generateConnectTokenPrivate clientID timeoutSeconds.toInt32 internalAddresses
            userData random)) := by
  have wellFormed : (generateConnectTokenPrivate clientID timeoutSeconds.toInt32 internalAddresses
      userData random).WellFormed :=
    ⟨some_address.trans_eq same_number.symm, same_number.trans_le few_addresses, knownInternal⟩
  obtain ⟨_, -, -, writes, -⟩ := wellFormed.read_write
  generalize FixedBytes.copyFrom connectTokenPrivateBytes _ = data at writes
  have sealedLength : (encryptConnectTokenPrivate env data protocolID
      (expireTimestampOf now.seconds expireSeconds) random.nonce privateKey).ciphertext.length =
        connectTokenPrivateBytes := by
    have length := env.xchacha20poly1305.encrypt_length privateKey random.nonce.bytes
      (connectTokenAdditionalData protocolID (expireTimestampOf now.seconds expireSeconds))
      (data.bytes.take (connectTokenPrivateBytes - MacBytes))
    rw [List.length_take, data.length_eq] at length
    exact length
  set token : ConnectToken :=
    { protocolID := protocolID
      createTimestamp := now.seconds
      expireTimestamp := expireTimestampOf now.seconds expireSeconds
      nonce := random.nonce
      privateData := .copyFrom connectTokenPrivateBytes (encryptConnectTokenPrivate env data protocolID
        (expireTimestampOf now.seconds expireSeconds) random.nonce privateKey).ciphertext
      timeoutSeconds := timeoutSeconds.toInt32
      numServerAddresses := publicAddresses.length
      serverAddresses := publicAddresses ++
        List.replicate (MaxServersPerConnect - publicAddresses.length) Address.none
      clientToServerKey := random.clientToServerKey
      serverToClientKey := random.serverToClientKey } with isToken
  have isTake : token.serverAddresses.take token.numServerAddresses.toNat = publicAddresses := by
    rw [Int.toNat_natCast]
    exact List.take_left
  have publicWellFormed : token.WellFormed := by
    refine ⟨?_, ?_, ?_, isTake.symm ▸ knownPublic, fun address mem => ?_,
      le_expireTimestampOf now expireSeconds⟩
    · exact Int.natCast_pos.mpr some_address
    · exact Int.ofNat_le.mpr few_addresses
    · show (publicAddresses ++ _).length = _
      rw [List.length_append, List.length_replicate]
      omega
    · rw [Int.toNat_natCast, List.drop_left] at mem
      exact (List.mem_replicate.mp mem).2
  obtain ⟨written, writesPublic, -⟩ := publicWellFormed.read_write
  refine ⟨token, data, written, ?_, writesPublic, publicWellFormed, rfl, rfl, rfl, rfl,
    List.take_left, rfl, rfl, FixedBytes.copyFrom_bytes sealedLength,
    fun mac size => wellFormed.read_with_mac writes size⟩
  rw [sealConnectToken, writes, Option.bind_eq_bind, Option.bind_some] at seals
  change (token.write >>= fun output => pure output.bytes) = some output at seals
  rw [writesPublic] at seals
  exact Option.some_inj.mp seals

end Backend

/-! ### The client -/

namespace Client

variable {env : Platform} {config : ClientConfig} {calls : List Call} {c : Client}

/-- The address array of a client's token has 32 entries, as its type says. -/
def WholeArray (c : Client) : Prop := c.connectToken.serverAddresses.length = MaxServersPerConnect

theorem Run.wholeArray (quiet : config.NonReentrant) (run : Run env config calls c) :
    c.WholeArray := by
  refine Run.along (fun _ => True) WholeArray quiet (fun _ _ _ met => met) (fun _ => ?_)
    (fun connects c c' micro _ whole => ?_) run trivial
  · exact List.length_replicate
  · cases micro with
    | begin data token serverAddress allowed idle reads =>
      exact (ConnectToken.read_array reads).trans whole
    | reject data token allowed idle reads => exact (ConnectToken.read_array reads).trans whole
    | reset => exact List.length_replicate
    | _ => exact whole

/-- `Disconnect` keeps the token of an idle client and clears that of an active one. -/
theorem disconnect_token (env : Platform) (quiet : config.NonReentrant) (c : Client) :
    ∃ left, disconnect env config c = some left ∧
      (left.connectToken = c.connectToken ∨ left.connectToken = .empty) := by
  unfold disconnect disconnectInternal
  by_cases idle : c.state.code ≤ ClientState.disconnected.code ∨ c.state = .disconnected
  · rw [if_pos idle]
    exact ⟨c, rfl, .inl rfl⟩
  · rw [if_neg idle]
    dsimp only
    rw [resetConnectionData_eq quiet]
    exact ⟨_, rfl, .inr rfl⟩

/-- **`Connect` accepts a well formed token**, whatever the client did before. The addresses are those
of the token; over a former token they keep its fields of the other family. -/
theorem connect_accepts (quiet : config.NonReentrant) (whole : c.WholeArray) {token : ConnectToken}
    {written : FixedBytes ConnectTokenBytes} (wellFormed : token.WellFormed)
    (writes : token.write = some written) :
    ∃ left addresses serverAddress,
      connect env config c written.bytes = some (withState (beginConnect env
        { left with connectToken := { token with serverAddresses := addresses } }
        { token with serverAddresses := addresses } serverAddress) .sendingConnectionRequest) ∧
      disconnect env config c = some left ∧ addresses[0]? = some serverAddress ∧
      List.Forall₂ (fun read address => Address.Equal read address = true)
        (addresses.take token.numServerAddresses.toNat)
        (token.serverAddresses.take token.numServerAddresses.toNat) ∧
      (c.connectToken.serverAddresses = noAddresses → addresses = token.serverAddresses) := by
  obtain ⟨left, leaves, isToken⟩ := disconnect_token env quiet c
  have array : left.connectToken.serverAddresses.length = MaxServersPerConnect := by
    rcases isToken with same | same
    · rw [same]
      exact whole
    · rw [same]
      exact List.length_replicate
  obtain ⟨addresses, reads, equal, exact⟩ := wellFormed.read_over writes array
  have first : ∃ serverAddress, addresses[0]? = some serverAddress := by
    have size := (ConnectToken.read_array reads).trans array
    exact ⟨_, List.getElem?_eq_getElem (show 0 < addresses.length by rw [size]; decide)⟩
  obtain ⟨serverAddress, isFirst⟩ := first
  refine ⟨left, addresses, serverAddress, ?_, leaves, isFirst, equal, fun empty => exact ?_⟩
  · unfold connect
    rw [leaves, Option.bind_eq_bind, Option.bind_some, reads, Option.bind_eq_bind, Option.bind_some]
    dsimp only
    rw [if_neg (by decide), isFirst, Option.bind_eq_bind, Option.bind_some, setState_eq quiet]
  · rcases isToken with same | same
    · rw [same, empty]
    · rw [same]
      rfl

/-- The connection request goes out once the send interval has passed. -/
theorem sendPackets_request {time : ℚ} (state : c.state = .sendingConnectionRequest)
    (late : env.float64 (c.lastPacketSendTime + env.float64 packetSendInterval) < time) :
    (sendPackets env { c with time := time }).trace = .sent c.serverAddress (writePacket env
      c.requestPacket c.sequence c.writePacketKey c.connectToken.protocolID) :: c.trace := by
  unfold sendPackets
  rw [if_neg (not_le.mpr late)]
  dsimp only
  rw [state]
  rfl

/-- **The server opens the client's request**: the private token, with its MAC behind it. -/
theorem request_opens {protocolID currentTimestamp minConnectTokenExpireTimestamp : UInt64}
    {allowedPackets : PacketType → Bool} {readPacketKey : Option Key} {key : Key}
    {replayProtection : Option ReplayProtection} {token : FixedBytes connectTokenPrivateBytes}
    (isProtocol : c.connectToken.protocolID = protocolID)
    (sealedData : c.connectToken.privateData.bytes = (encryptConnectTokenPrivate env token protocolID
      c.connectToken.expireTimestamp c.connectToken.nonce key).ciphertext)
    (allowed : allowedPackets .request = true)
    (unexpired : currentTimestamp < c.connectToken.expireTimestamp)
    (afterStart : minConnectTokenExpireTimestamp ≤ c.connectToken.expireTimestamp) :
    ∃ request opened, readPacket env protocolID currentTimestamp minConnectTokenExpireTimestamp
        allowedPackets (writePacket env c.requestPacket c.sequence c.writePacketKey
          c.connectToken.protocolID) readPacketKey (some key) replayProtection =
        some ⟨some (.connectionRequest request), 0, replayProtection, opened⟩ ∧
      request.connectTokenExpireTimestamp = c.connectToken.expireTimestamp ∧
      request.connectTokenData.bytes = token.bytes.take (connectTokenPrivateBytes - MacBytes) ++
        c.connectToken.privateData.bytes.drop (connectTokenPrivateBytes - MacBytes) := by
  have reads := @readPacket_request env protocolID currentTimestamp minConnectTokenExpireTimestamp
    allowedPackets replayProtection ⟨versionInfo, c.connectToken.protocolID,
      c.connectToken.expireTimestamp, c.connectToken.nonce, c.connectToken.privateData⟩ readPacketKey key
    token c.sequence c.writePacketKey allowed rfl isProtocol unexpired afterStart sealedData
  rw [requestPacket, isProtocol]
  rw [isProtocol] at reads
  exact ⟨_, _, reads, rfl, (openedToken_bytes token c.connectToken.privateData).2.2⟩

end Client

/-! ### All three parties -/

section Pipeline

variable {env : Platform} {netip : Netip} {random : TokenRandom} {now : UnixTime}
  {publicServerAddresses internalServerAddresses : List Bytes} {expireSeconds timeoutSeconds : Int64}
  {clientID protocolID : UInt64} {privateKey userData data : Bytes}

/-- **What `GenerateConnectToken` accepts.** -/
theorem generateConnectToken_ok
    (accepted : generateConnectToken env netip random now publicServerAddresses
      internalServerAddresses expireSeconds timeoutSeconds clientID protocolID privateKey userData =
        some (.ok data)) :
    ∃ publicAddresses internalAddresses, ∃ key : Key, key.bytes = privateKey ∧
      publicServerAddresses.mapM (parseAddress netip) = .ok publicAddresses ∧
      internalServerAddresses.mapM (parseAddress netip) = .ok internalAddresses ∧
      1 ≤ publicAddresses.length ∧ publicAddresses.length ≤ MaxServersPerConnect ∧
      internalAddresses.length = publicAddresses.length ∧ userData.length ≤ UserDataBytes ∧
      sealConnectToken env random now publicAddresses internalAddresses expireSeconds timeoutSeconds
        clientID protocolID key userData = some data := by
  unfold generateConnectToken at accepted
  split_ifs at accepted with number same size user
  all_goals try cases accepted
  cases parsesPublic : publicServerAddresses.mapM (parseAddress netip) with
  | error error =>
    rw [parsesPublic] at accepted
    cases accepted
  | ok publicAddresses =>
    cases parsesInternal : internalServerAddresses.mapM (parseAddress netip) with
    | error error =>
      rw [parsesPublic, parsesInternal] at accepted
      cases accepted
    | ok internalAddresses =>
      rw [parsesPublic, parsesInternal] at accepted
      obtain ⟨output, seals, isOutput⟩ := Option.bind_eq_some_iff.mp accepted
      cases isOutput
      have lengthPublic := (parsed_spec parsesPublic).1
      have lengthInternal := (parsed_spec parsesInternal).1
      exact ⟨publicAddresses, internalAddresses, ⟨privateKey, size⟩, rfl, rfl, rfl, by omega, by omega,
        by omega, by omega, seals⟩

/-- **The server reads what the backend was given.** For every call of `GenerateConnectToken` that
returns a token, and every client, in whatever state:

* the token has 2048 bytes and `Connect` accepts it; the client then has the public addresses, exactly
  if its address array was empty, and up to the fields of the other family otherwise;
* the connection request it sends is opened by a server with the private key and the protocol id, as
  long as the server takes the token's expire timestamp, which is the client's;
* the private token in it has the client id, the timeout, the internal addresses in order and the zero
  padded user data, and the keys of the client the other way round. -/
theorem connect_token_pipeline {config : ClientConfig} {calls : List Client.Call} {c : Client}
    (quiet : config.NonReentrant) (run : Client.Run env config calls c)
    (accepted : generateConnectToken env netip random now publicServerAddresses
      internalServerAddresses expireSeconds timeoutSeconds clientID protocolID privateKey userData =
        some (.ok data))
    (timeout : -2 ^ 31 ≤ timeoutSeconds.toInt ∧ timeoutSeconds.toInt < 2 ^ 31) :
    ∃ publicAddresses internalAddresses, ∃ (key : Key) (first : Client),
      publicServerAddresses.mapM (parseAddress netip) = .ok publicAddresses ∧
      internalServerAddresses.mapM (parseAddress netip) = .ok internalAddresses ∧
      key.bytes = privateKey ∧ data.length = ConnectTokenBytes ∧
      Client.connect env config c data = some first ∧
      first.state = .sendingConnectionRequest ∧
      first.connectToken.numServerAddresses = publicAddresses.length ∧
      List.Forall₂ (fun read address => Address.Equal read address = true)
        (first.connectToken.serverAddresses.take publicAddresses.length) publicAddresses ∧
      (c.connectToken.serverAddresses = noAddresses →
        first.connectToken.serverAddresses.take publicAddresses.length = publicAddresses) ∧
      ∀ time, env.float64 (first.lastPacketSendTime + env.float64 packetSendInterval) < time →
        ∃ sent, (Client.sendPackets env { first with time := time }).trace =
            .sent first.serverAddress sent :: first.trace ∧
          ∀ currentTimestamp minConnectTokenExpireTimestamp allowedPackets readPacketKey
            replayProtection, allowedPackets .request = true →
            currentTimestamp < first.connectToken.expireTimestamp →
            minConnectTokenExpireTimestamp ≤ first.connectToken.expireTimestamp →
              ∃ request opened, ∃ tokenPrivate : ConnectTokenPrivate,
                readPacket env protocolID currentTimestamp minConnectTokenExpireTimestamp
                    allowedPackets sent readPacketKey (some key) replayProtection =
                  some ⟨some (.connectionRequest request), 0, replayProtection, opened⟩ ∧
                request.connectTokenExpireTimestamp = first.connectToken.expireTimestamp ∧
                ConnectTokenPrivate.read request.connectTokenData.bytes = some (some tokenPrivate) ∧
                tokenPrivate.clientID = clientID ∧
                tokenPrivate.timeoutSeconds.toInt = timeoutSeconds.toInt ∧
                tokenPrivate.serverAddresses = internalAddresses ∧
                tokenPrivate.userData.bytes =
                  userData ++ List.replicate (UserDataBytes - userData.length) 0 ∧
                tokenPrivate.serverToClientKey = first.readPacketKey ∧
                tokenPrivate.clientToServerKey = first.writePacketKey := by
  obtain ⟨publicAddresses, internalAddresses, key, isKey, parsesPublic, parsesInternal, some_address,
    few_addresses, same_number, smallUserData, output⟩ := generateConnectToken_ok accepted
  obtain ⟨token, tokenData, written, rfl, writes, wellFormed, isProtocol, isNonce, isExpire, isNumber,
    isAddresses, isClientKey, isServerKey, isPrivate, readsPrivate⟩ := sealConnectToken_spec
      some_address few_addresses same_number (parsed_spec parsesPublic).2
      (parsed_spec parsesInternal).2 output
  obtain ⟨left, addresses, serverAddress, connects, -, -, equal, exact⟩ :=
    Client.connect_accepts quiet (run.wholeArray quiet) wellFormed writes
  rw [isNumber, Int.toNat_natCast, isAddresses] at equal
  refine ⟨publicAddresses, internalAddresses, key, _, parsesPublic, parsesInternal, isKey,
    written.length_eq, connects, rfl, isNumber, equal, fun empty => ?_, fun time late => ?_⟩
  · show addresses.take publicAddresses.length = publicAddresses
    rw [exact empty, isAddresses]
  · refine ⟨_, Client.sendPackets_request rfl late, fun _ _ _ _ _ allowed unexpired afterStart => ?_⟩
    obtain ⟨request, opened, reads, sameExpire, isData⟩ := Client.request_opens isProtocol
      (show token.privateData.bytes = _ by rw [isPrivate, ← isExpire, ← isNonce]; rfl) allowed unexpired
      afterStart
    refine ⟨request, opened, generateConnectTokenPrivate clientID timeoutSeconds.toInt32
      internalAddresses userData random, reads, sameExpire, ?_, rfl, ?_, rfl,
      FixedBytes.copyFrom_short smallUserData, isServerKey.symm, isClientKey.symm⟩
    · rw [isData]
      exact readsPrivate _ (openedToken_bytes tokenData token.privateData).2.1
    · show timeoutSeconds.toInt32.toInt = timeoutSeconds.toInt
      rw [Int64.toInt_toInt32]
      exact Int.bmod_eq_of_le (by omega) (by omega)

end Pipeline

namespace Sample

/-- A `netip` that knows "10.0.0.1" and "::1". -/
def netip : Netip where
  parseAddr text :=
    if text = [49, 48, 46, 48, 46, 48, 46, 49] then some (.ip4 ⟨[10, 0, 0, 1], rfl⟩)
    else if text = [58, 58, 49] then some (.ip6 ⟨[0, 0, 0, 0, 0, 0, 0, 0, 0, 0, 0, 0, 0, 0, 0, 1], rfl⟩)
    else none

/-- "10.0.0.1:40000" and "[::1]:40000". -/
def addressTexts : List Bytes :=
  [[49, 48, 46, 48, 46, 48, 46, 49, 58, 52, 48, 48, 48, 48],
    [91, 58, 58, 49, 93, 58, 52, 48, 48, 48, 48]]

def random : TokenRandom := ⟨nonce, key 11, key 12⟩

end Sample

/-- A token for an address of each family, taken up by a new client. -/
theorem connect_token_pipeline_both_families :
    ∃ data publicAddresses, ∃ first : Client,
      generateConnectToken samplePlatform Sample.netip Sample.random ⟨1000, by decide⟩
          Sample.addressTexts Sample.addressTexts 30 10 1 Sample.protocolID
          Sample.config.privateKey.bytes [1, 2, 3] = some (.ok data) ∧
        Sample.addressTexts.mapM (parseAddress Sample.netip) = .ok publicAddresses ∧
        publicAddresses.map Address.type = [AddressIPv4, AddressIPv6] ∧
        Client.connect samplePlatform Sample.clientConfig (Client.new 0) data = some first ∧
        first.connectToken.serverAddresses.take publicAddresses.length = publicAddresses := by
  have runs : ((generateConnectToken samplePlatform Sample.netip Sample.random ⟨1000, by decide⟩
      Sample.addressTexts Sample.addressTexts 30 10 1 Sample.protocolID
      Sample.config.privateKey.bytes [1, 2, 3]).bind fun result => result.toOption).isSome = true := by
    decide +kernel
  have parses : (Sample.addressTexts.mapM (parseAddress Sample.netip)).toOption.map
      (List.map Address.type) = some [AddressIPv4, AddressIPv6] := by
    decide +kernel
  obtain ⟨data, isData⟩ := Option.isSome_iff_exists.mp runs
  obtain ⟨result, generates, isOk⟩ := Option.bind_eq_some_iff.mp isData
  cases result with
  | error error => cases isOk
  | ok data' =>
    obtain ⟨publicAddresses, _, _, first, parsed, -, -, -, connects, -, -, -, exact, -⟩ :=
      connect_token_pipeline Sample.clientConfig_nonReentrant (.new 0) generates (by decide)
    refine ⟨data', publicAddresses, first, generates, parsed, ?_, connects, exact rfl⟩
    rw [parsed] at parses
    exact Option.some_inj.mp parses

end Netcode
