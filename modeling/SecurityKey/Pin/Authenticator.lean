import SecurityKey.Pin.Client
import SecurityKey.Response

/-!
# The authenticator's side of PINs

What an authenticator does with a request that carries a platform key: it derives the secret from the platform's key and
its own, checks the authentication code and decrypts what the request carries. Tokens and its own key go the other way.
-/

namespace SecurityKey.Pin

open Cbor (Value)

open Crypto

/-- The answer that holds the public key of `key`. -/
def keyAnswer (key : P256.PrivateKey) : Except KeyFault Value := do
  return .map [(.unsigned 0x01, ← CoseKey.ofPoint CoseKey.keyAgreement key.publicKey)]

/-- The answer that holds a token, encrypted under a secret. -/
def tokenAnswer (protocol : PinProtocol) (secret iv token : Bytes) : Except Crypto.Failure Value := do
  return .map [(.unsigned 0x02, .bytes (← protocol.encrypt secret iv token))]

/-- A request that carries a platform key. -/
structure SealedRequest where
  protocol : PinProtocol
  platformKey : Value
  arguments : Response

namespace SealedRequest

/-- The request with the given arguments, when they hold a platform key and a known protocol. -/
def ofArguments? (arguments : Response) : Option SealedRequest := do
  let number ← (arguments.get? 0x01).bind Value.unsigned?
  let protocol ← if number < 256 then PinProtocol.ofVersion? number.toUInt8 else none
  return { protocol, platformKey := ← arguments.get? 0x03, arguments }

/-- The request that a message holds. -/
def ofMessage? (message : Bytes) : Option SealedRequest :=
  match message with
  | command :: arguments =>
    if command = Command.clientPin.byte then (Response.ofBytes arguments).toOption.bind ofArguments? else none
  | [] => none

/-- The secret shared with the platform, for an authenticator with the private key `key`. -/
def secret? (request : SealedRequest) (key : P256.PrivateKey) : Option Bytes := do
  let point ← (CoseKey.toPoint request.platformKey).toOption
  return request.protocol.derive (← key.agree? point)

/-- The bytes under a key. -/
def bytes? (request : SealedRequest) (key : UInt64) : Option Bytes :=
  (request.arguments.get? key).bind Value.bytes?

/-- The encrypted new PIN. -/
def newPinEnc? (request : SealedRequest) : Option Bytes :=
  request.bytes? 0x05

/-- The encrypted hash of the current PIN. -/
def pinHashEnc? (request : SealedRequest) : Option Bytes :=
  request.bytes? 0x06

/-- The new PIN with the zeros after it. -/
def newPin? (request : SealedRequest) (secret : Bytes) : Option (Except Crypto.Failure Bytes) :=
  request.newPinEnc?.map (request.protocol.decrypt secret)

/-- The first half of the hash of the current PIN. -/
def pinHash? (request : SealedRequest) (secret : Bytes) : Option (Except Crypto.Failure Bytes) :=
  request.pinHashEnc?.map (request.protocol.decrypt secret)

/-- Whether the authentication code belongs to what is encrypted; `none` when there is no code. -/
def isAuthentic? (request : SealedRequest) (secret : Bytes) : Option Bool :=
  (request.bytes? 0x04).map fun code =>
    code == request.protocol.authenticate secret (request.newPinEnc?.getD [] ++ request.pinHashEnc?.getD [])

/-- Whether the two ciphertexts have different initialization vectors; `none` unless both have one. -/
def hasFreshVectors? (request : SealedRequest) : Option Bool :=
  match request.protocol, request.newPinEnc?, request.pinHashEnc? with
  | .two, some newPin, some pinHash => some (newPin.take 16 != pinHash.take 16)
  | _, _, _ => none

end SealedRequest

end SecurityKey.Pin
