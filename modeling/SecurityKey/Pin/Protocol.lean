import SecurityKey.Crypto.Cbc
import SecurityKey.Crypto.Hmac
import SecurityKey.Crypto.P256
import SecurityKey.Info

/-!
# PIN/UV auth protocols

How secrets travel between a platform and an authenticator. Both versions agree on a secret with a P-256 key of each
side, encrypt with AES-256 in chained blocks and authenticate with HMAC. Version one uses one key of 32 bytes and an
initialization vector of zeros; version two has a key for each purpose and sends the vector in front.
-/

namespace SecurityKey

/-- A version of the protocol. -/
inductive PinProtocol where
  | one
  | two
  deriving DecidableEq

namespace PinProtocol

open Crypto

/-- The number of a version. -/
def version : PinProtocol → UInt8
  | one => 1
  | two => 2

/-- The version with a number. -/
def ofVersion? (version : UInt8) : Option PinProtocol :=
  if version = 1 then some one else if version = 2 then some two else none

/-- The name of a version in a description. -/
def name : PinProtocol → String
  | one => "V1"
  | two => "V2"

/-- The first version in `preference` that the authenticator lists. One that lists none speaks version one. -/
def select (info : Info) (preference : List UInt8) : Result PinProtocol :=
  if info.pinUvAuthProtocols.isEmpty then .ok one
  else
    match (preference.filter fun v => info.pinUvAuthProtocols.contains v.toUInt64).findSome? ofVersion? with
    | some protocol => .ok protocol
    | none => .error (.notSupported .commonPinProtocol)

/-- The length of the secret that both sides derive. -/
def keyLength : PinProtocol → Nat
  | one => 32
  | two => 64

/-- The secret of both sides, derived from the coordinate `z` that they share. -/
def derive (protocol : PinProtocol) (z : Bytes) : Bytes :=
  match protocol with
  | one => sha256 z
  | two =>
    let part (purpose : String) := hkdfBytes (List.replicate 32 0) z (Bytes.ofText purpose) 32
    part "CTAP2 HMAC key" ++ part "CTAP2 AES key"

/-- The platform's side of a key agreement: its public key, and the secret. -/
structure Agreement where
  platformKey : Cbor.Value
  secret : Bytes

/-- The agreement of the private key `key` with the authenticator's public key. -/
def agree (protocol : PinProtocol) (key : P256.PrivateKey) (authenticatorKey : Cbor.Value) :
    Except Crypto.Failure Agreement := do
  let peer ← (CoseKey.toPoint authenticatorKey).mapError .peerKey
  let platformKey ← (CoseKey.ofPoint CoseKey.keyAgreement key.publicKey).mapError .peerKey
  match key.agree? peer with
  | some z => return { platformKey, secret := protocol.derive z }
  | none => throw (.peerKey .noAgreement)

/-- The part of a secret that encrypts. -/
def cipherKey : PinProtocol → Bytes → Bytes
  | one, secret => secret
  | two, secret => secret.drop 32

/-- Whether `secret` and a text of `length` bytes, which has to be a whole number of blocks, fit the protocol. -/
def check (protocol : PinProtocol) (secret : Bytes) (length : Nat) : Except Crypto.Failure Unit :=
  if secret.length ≠ protocol.keyLength then .error (.keyLength secret.length)
  else if length % 16 ≠ 0 then .error (.dataLength length)
  else .ok ()

/-- The encrypted form of `plain`, where version two uses the initialization vector `iv`. -/
def encrypt (protocol : PinProtocol) (secret iv plain : Bytes) : Except Crypto.Failure Bytes := do
  protocol.check secret plain.length
  match protocol with
  | one => return Cbc.encrypt secret (List.replicate 16 0) plain
  | two => return iv ++ Cbc.encrypt (protocol.cipherKey secret) iv plain

/-- The text with the encrypted form `encrypted`. -/
def decrypt (protocol : PinProtocol) (secret encrypted : Bytes) : Except Crypto.Failure Bytes :=
  match protocol with
  | one => do
    protocol.check secret encrypted.length
    return Cbc.decrypt secret (List.replicate 16 0) encrypted
  | two =>
    if secret.length ≠ protocol.keyLength then .error (.keyLength secret.length)
    else if encrypted.length < 16 then .error (.dataLength encrypted.length)
    else do
      protocol.check secret (encrypted.length - 16)
      return Cbc.decrypt (protocol.cipherKey secret) (encrypted.take 16) (encrypted.drop 16)

/-- The authentication code of a message under a secret or a token. -/
def authenticate (protocol : PinProtocol) (key message : Bytes) : Bytes :=
  match protocol with
  | one => (hmac key message).take 16
  | two => hmac (key.take 32) message

end PinProtocol

end SecurityKey
