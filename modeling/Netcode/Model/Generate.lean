/-
**Generating connect tokens.**

`GenerateConnectToken` of `token.go`, as the web backend calls it. Go's `int` has 64 bits; the random
bytes and the reading of the clock are inputs.
-/

import Netcode.Model.Address
import Netcode.Model.Token

namespace Netcode

/-- A reading of the clock: `time.Now().Unix()`, an `int64` that counts the seconds since 1970. -/
structure UnixTime where
  seconds : UInt64
  nonneg : seconds.toNat < 2 ^ 63

/-- What `RandomBytes` gives, in the order it is asked. -/
structure TokenRandom where
  nonce : FixedBytes connectTokenNonceBytes
  clientToServerKey : Key
  serverToClientKey : Key

/-- The errors of `GenerateConnectToken`. -/
inductive TokenError where
  | numServerAddresses
  | differentNumbers
  | privateKeySize
  | userDataSize
  | address (error : AddressError)
  deriving DecidableEq

def generateConnectTokenPrivate (clientID : UInt64) (timeoutSeconds : Int32)
    (serverAddresses : List Address) (userData : Bytes) (random : TokenRandom) :
    ConnectTokenPrivate :=
  { clientID := clientID
    timeoutSeconds := timeoutSeconds
    serverAddresses := serverAddresses
    clientToServerKey := random.clientToServerKey
    serverToClientKey := random.serverToClientKey
    userData := .copyFrom UserDataBytes userData }

/-- The expire timestamp; a negative `expireSeconds` disables expiry. -/
def expireTimestampOf (createTimestamp : UInt64) (expireSeconds : Int64) : UInt64 :=
  if 0 ≤ expireSeconds then createTimestamp + expireSeconds.toUInt64 else 0xFFFFFFFFFFFFFFFF

/-- The part of `GenerateConnectToken` behind its checks. -/
def sealConnectToken (env : Platform) (random : TokenRandom) (now : UnixTime)
    (publicAddresses internalAddresses : List Address) (expireSeconds timeoutSeconds : Int64)
    (clientID protocolID : UInt64) (privateKey : Key) (userData : Bytes) : Go Bytes := do
  let tokenPrivate := generateConnectTokenPrivate clientID timeoutSeconds.toInt32 internalAddresses
    userData random
  let privateData ← tokenPrivate.write
  let expireTimestamp := expireTimestampOf now.seconds expireSeconds
  let call := encryptConnectTokenPrivate env privateData protocolID expireTimestamp random.nonce
    privateKey
  let token : ConnectToken :=
    { protocolID := protocolID
      createTimestamp := now.seconds
      expireTimestamp := expireTimestamp
      nonce := random.nonce
      privateData := .copyFrom connectTokenPrivateBytes call.ciphertext
      timeoutSeconds := timeoutSeconds.toInt32
      numServerAddresses := publicAddresses.length
      serverAddresses := publicAddresses ++
        List.replicate (MaxServersPerConnect - publicAddresses.length) Address.none
      clientToServerKey := tokenPrivate.clientToServerKey
      serverToClientKey := tokenPrivate.serverToClientKey }
  let output ← token.write
  return output.bytes

def generateConnectToken (env : Platform) (netip : Netip) (random : TokenRandom) (now : UnixTime)
    (publicServerAddresses internalServerAddresses : List Bytes)
    (expireSeconds timeoutSeconds : Int64) (clientID protocolID : UInt64)
    (privateKey userData : Bytes) : Go (Except TokenError Bytes) :=
  if publicServerAddresses.length ≤ 0 ∨ MaxServersPerConnect < publicServerAddresses.length then
    some (.error .numServerAddresses)
  else if internalServerAddresses.length ≠ publicServerAddresses.length then
    some (.error .differentNumbers)
  else if size : privateKey.length = KeyBytes then
    if UserDataBytes < userData.length then some (.error .userDataSize)
    else match publicServerAddresses.mapM (parseAddress netip) with
      | .error error => some (.error (.address error))
      | .ok publicAddresses => match internalServerAddresses.mapM (parseAddress netip) with
        | .error error => some (.error (.address error))
        | .ok internalAddresses => do
          let output ← sealConnectToken env random now publicAddresses internalAddresses
            expireSeconds timeoutSeconds clientID protocolID ⟨privateKey, size⟩ userData
          return .ok output
  else some (.error .privateKeySize)

end Netcode
