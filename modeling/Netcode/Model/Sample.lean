/-
**A platform to run the model on.**

The AEADs of the model are parameters. `checksumAead` is an executable one: the sealed text is the
text with a 16 byte checksum of key, nonce, associated data and text behind it. It hides nothing,
but it opens exactly what was sealed with the same four, unless checksums collide. With it, and with
exact arithmetic for `float64`, the model runs on concrete datagrams.

* `Server.execute`, `Client.execute` — a list of calls, oldest first; `Run.execute` makes a run of it.
* `Sample.request`, `Sample.response` — the datagrams of a client that connects with a token.
* `Sample.publicToken` — the connect token a client is given.
-/

import Netcode.Model.Server
import Netcode.Model.Client

namespace Netcode

open LittleEndian

/-! ### A checksum as an AEAD -/

/-- A 16 byte checksum over length-delimited parts. -/
def checksum (key : Key) (nonce additional message : Bytes) : Bytes :=
  leBytes MacBytes ((key.bytes ++ nonce ++ additional ++ message).foldl
    (fun sum byte => (sum * 257 + byte.toNat + 1) % 2 ^ 128) (nonce.length + 64 * additional.length))

/-- Append the checksum; check it and cut it off. -/
def checksumAead : Aead where
  encrypt key nonce additional message := message ++ checksum key nonce additional message
  decrypt key nonce additional message :=
    if MacBytes ≤ message.length ∧ message.drop (message.length - MacBytes) =
        checksum key nonce additional (message.take (message.length - MacBytes)) then
      some (message.take (message.length - MacBytes))
    else none
  encrypt_length key nonce additional message := by simp [checksum]
  decrypt_length key nonce additional message plain opened := by
    split_ifs at opened with valid
    cases opened
    rw [List.length_take]
    omega
  decrypt_encrypt key nonce additional message := by
    have size : (message ++ checksum key nonce additional message).length - MacBytes =
        message.length := by
      simp [checksum]
    rw [size, List.take_left, List.drop_left, if_pos]
    exact ⟨by simp [checksum], rfl⟩

/-- The checksum as both AEADs, and exact arithmetic. -/
def samplePlatform : Platform where
  chacha20poly1305 := checksumAead
  xchacha20poly1305 := checksumAead
  float64 := id
  float64_mono := monotone_id
  float64_zero := rfl

/-! ### Running calls -/

namespace Server

instance (env : Platform) (s : Server) (call : Call) : Decidable (Forward env s call) := by
  unfold Forward Platform.IsFloat64
  split <;> infer_instance

/-- Make calls, oldest first. -/
def execute (env : Platform) (config : ServerConfig) : Server → List Call → Go Server
  | s, [] => some s
  | s, call :: rest =>
    if Forward env s call then (step env config s call).bind (execute env config · rest) else none

theorem Run.execute {env : Platform} {config : ServerConfig} {s s' : Server} {calls : List Call} :
    ∀ {rest : List Call}, Run env config calls s → Server.execute env config s rest = some s' →
      Run env config (rest.reverse ++ calls) s'
  | [], run, done => by
    cases done
    exact run
  | call :: rest, run, done => by
    unfold Server.execute at done
    split_ifs at done with forward
    obtain ⟨middle, first, last⟩ := Option.bind_eq_some_iff.mp done
    have whole := Run.execute (.step run call forward first) last
    rwa [List.reverse_cons, List.append_assoc]

end Server

namespace Client

/-- Make calls, oldest first. -/
def execute (env : Platform) (config : ClientConfig) : Client → List Call → Go Client
  | c, [] => some c
  | c, call :: rest => (step env config c call).bind (execute env config · rest)

theorem Run.execute {env : Platform} {config : ClientConfig} {c c' : Client} {calls : List Call} :
    ∀ {rest : List Call}, Run env config calls c → Client.execute env config c rest = some c' →
      Run env config (rest.reverse ++ calls) c'
  | [], run, done => by
    cases done
    exact run
  | call :: rest, run, done => by
    obtain ⟨middle, first, last⟩ := Option.bind_eq_some_iff.mp done
    have whole := Run.execute (.step run call first) last
    rwa [List.reverse_cons, List.append_assoc]

end Client

/-! ### A client that connects -/

namespace Sample

def protocolID : UInt64 := 7

/-- A key that repeats one byte. -/
def key (byte : UInt8) : Key := ⟨List.replicate 32 byte, rfl⟩

/-- An IPv4 address with a last byte and a port. -/
def address (byte : UInt8) (port : UInt16) : Address :=
  ⟨AddressIPv4, ⟨[10, 0, 0, byte], rfl⟩, .replicate 8 0, port⟩

def serverAddress : Address := address 1 40000

/-- No callbacks, and the default connect token lifetime. -/
def config : ServerConfig :=
  { protocolID := protocolID
    privateKey := key 1
    maxConnectTokenLifetime := 0
    connectDisconnectCallback := none
    sendLoopbackPacketCallback := none }

theorem config_nonReentrant : config.NonReentrant := ⟨nofun, nofun⟩

/-- A token for this server, with a timeout of ten seconds. -/
def token (clientID : UInt64) (clientToServer serverToClient : UInt8) : ConnectTokenPrivate :=
  { clientID := clientID
    timeoutSeconds := 10
    serverAddresses := [serverAddress]
    clientToServerKey := key clientToServer
    serverToClientKey := key serverToClient
    userData := .zero _ }

/-- No callbacks. -/
def clientConfig : ClientConfig := ⟨none, none⟩

theorem clientConfig_nonReentrant : clientConfig.NonReentrant := ⟨nofun, nofun⟩

def nonce : FixedBytes connectTokenNonceBytes := .zero _

/-- The sealed private part of a token. -/
def sealToken (token : ConnectTokenPrivate) (expireTimestamp : UInt64) : AeadCall :=
  encryptConnectTokenPrivate samplePlatform (token.write.getD (.zero _)) protocolID expireTimestamp
    nonce config.privateKey

/-- The public part of a token created at second 1000, for servers at the given addresses. -/
def publicToken (token : ConnectTokenPrivate) (expireTimestamp : UInt64) (addresses : List Address) :
    ConnectToken :=
  { protocolID := protocolID
    createTimestamp := 1000
    expireTimestamp := expireTimestamp
    nonce := nonce
    privateData := .copyFrom connectTokenPrivateBytes (sealToken token expireTimestamp).ciphertext
    timeoutSeconds := token.timeoutSeconds
    numServerAddresses := addresses.length
    serverAddresses := addresses ++
      List.replicate (MaxServersPerConnect - addresses.length) Address.none
    clientToServerKey := token.clientToServerKey
    serverToClientKey := token.serverToClientKey }

/-- What a client passes to `Connect`. -/
def connectTokenData (token : ConnectTokenPrivate) (expireTimestamp : UInt64)
    (addresses : List Address) : Bytes :=
  (publicToken token expireTimestamp addresses).write.elim [] FixedBytes.bytes

/-- The connection request a client sends. -/
def request (token : ConnectTokenPrivate) (expireTimestamp : UInt64) : Bytes :=
  writePacket samplePlatform (.connectionRequest
    { versionInfo := versionInfo
      protocolID := protocolID
      connectTokenExpireTimestamp := expireTimestamp
      connectTokenNonce := nonce
      connectTokenData :=
        .copyFrom connectTokenPrivateBytes (sealToken token expireTimestamp).ciphertext })
    0 token.clientToServerKey protocolID

/-- The bytes `RandomBytes` gives for a challenge key. -/
def challengeKey : Key := key 99

/-- The response that echoes challenge number `challengeSequence`, issued for `challenged`, under
the keys of `token`. -/
def response (challenged token : ConnectTokenPrivate) (challengeSequence sequence : UInt64) : Bytes :=
  writePacket samplePlatform (.connectionResponse challengeSequence
    (.copyFrom challengeTokenBytes (encryptChallengeToken samplePlatform
      (ChallengeToken.write ⟨challenged.clientID, challenged.userData⟩) challengeSequence
      challengeKey).ciphertext))
    sequence token.clientToServerKey protocolID

/-- Two tokens of different clients. -/
def first : ConnectTokenPrivate := token 1 11 12
def second : ConnectTokenPrivate := token 2 21 22

def firstAddress : Address := address 5 5000
def secondAddress : Address := address 6 6000

def server : Server := .new serverAddress Address.none 0

theorem server_run : Server.Run samplePlatform config [] server := .new _ _ _ rfl

/-- Start two slots at second 1000, and connect a client with the first token. -/
def connectFirst : List Server.Call :=
  [.start 2 challengeKey 1000,
    .processPacket firstAddress (request first 1040) 1001 1001,
    .processPacket firstAddress (response first first 0 1) 1001 1001]

/-- Then connect a second client. -/
def connectBoth : List Server.Call := connectFirst ++
  [.processPacket secondAddress (request second 1040) 1001 1001,
    .processPacket secondAddress (response second second 1 1) 1001 1001]

end Sample

end Netcode
