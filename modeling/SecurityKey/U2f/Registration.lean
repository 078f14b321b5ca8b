import SecurityKey.Credential.Creation
import SecurityKey.Crypto.Ecdsa
import SecurityKey.U2f.Certificate

/-!
# U2F registrations

The answer to a U2F registration: a reserved byte, the public key, the key handle with its length, the attestation
certificate and the signature. It can be turned into the attestation that a CTAP2 authenticator would have given.
-/

namespace SecurityKey.U2f

open Cbor (Value)

open Crypto

/-- A registered key. -/
structure Registration where
  publicKey : Bytes
  keyHandle : Bytes
  certificate : Bytes
  signature : Bytes
  deriving DecidableEq

/-- Checks a signature over `message` with the P-256 key `publicKey`. -/
def verifySignature (publicKey message signature : Bytes) : Result Unit :=
  if Ecdsa.verify publicKey message signature then .ok () else .error (.crypto .signature)

namespace Registration

/-- The certificate at the start of a byte string and what follows it. -/
def splitCertificate? (bytes : Bytes) : Option (Bytes × Bytes) := do
  let (_, rest) ← Der.tagged? Der.sequence bytes
  return (bytes.take (bytes.length - rest.length), rest)

/-- The registration that an answer holds. -/
def parse (data : Bytes) : Result Registration :=
  match data with
  | [] => .error (.badResponse .emptyRegistration)
  | reserved :: rest =>
    if reserved ≠ 0x05 then .error (.badResponse (.reservedByte reserved))
    else
      match Bytes.splitAt? 65 rest with
      | some (publicKey, length :: rest) => do
        let (keyHandle, rest) ← Result.ofOption .shortKeyHandle (Bytes.splitAt? length.toNat rest)
        let (certificate, signature) ← Result.ofOption .certificate (splitCertificate? rest)
        return { publicKey, keyHandle, certificate, signature }
      | _ => .error (.badResponse .shortRegistration)

/-- The message that the signature covers. -/
def signedData (registration : Registration) (application client : Bytes) : Bytes :=
  0 :: (application ++ (client ++ (registration.keyHandle ++ registration.publicKey)))

/-- Checks the signature with the key of the certificate. The certificate itself is taken as it is. -/
def verify (registration : Registration) (application client : Bytes) : Result Unit := do
  let key ← Result.ofOption .certificateKey (certificateKey? registration.certificate)
  verifySignature key (registration.signedData application client) registration.signature

/-- The authenticator data of the credential with the public key `key`, whose owner was present. -/
def authenticatorData (registration : Registration) (application : Bytes) (key : Bytes) : AuthenticatorData where
  rpIdHash := application
  flags := .ofList [.userPresent, .attestedDataIncluded]
  counter := 0
  rest := List.replicate 16 0 ++
    (Bytes.ofNat 2 registration.keyHandle.length ++ (registration.keyHandle ++ key))

/-- The registration as an attestation. The authenticator's model is not known and written as zeros. -/
def toAttestation (registration : Registration) (application : Bytes) : Result Attestation := do
  let key ← (CoseKey.ofPoint CoseKey.es256 registration.publicKey).mapError fun fault => .crypto (.peerKey fault)
  if 65535 < registration.keyHandle.length then throw (.encoding .keyHandleTooLong)
  let key ← Request.canonical key
  return {
    format := "fido-u2f"
    authData := (registration.authenticatorData application key).toBytes
    statement := .map [
      (.text "sig", .bytes registration.signature),
      (.text "x5c", .array [.bytes registration.certificate])]
    enterprise := none
    largeBlobKey := none }

end Registration

end SecurityKey.U2f
