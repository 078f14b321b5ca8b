import SecurityKey.Credential.AuthenticatorData
import SecurityKey.Info
import SecurityKey.Request

/-!
# Creating credentials

The arguments with which an authenticator makes a credential, and the attestation it answers with.
-/

namespace SecurityKey

open Cbor (Value)

/-- A dictionary as a value with text keys. -/
def Dictionary.toValue (write : α → Value) (d : Dictionary String α) : Value :=
  .map (d.entries.map fun (name, content) => (.text name, write content))

/-- The arguments with which a credential is made. -/
structure CreationParameters where
  clientDataHash : Bytes
  rp : Option RelyingPartyEntity := none
  user : Option UserEntity := none
  algorithms : List CredentialParameters := []
  excludeList : Option (List CredentialDescriptor) := none
  extensions : Option (Dictionary String Value) := none
  options : Option (Dictionary String Bool) := none
  pinUvAuthParam : Option Bytes := none
  pinUvAuthProtocol : Option UInt8 := none
  enterpriseAttestation : Option UInt64 := none

/-- The argument map of the parameters. -/
def CreationParameters.toValue (parameters : CreationParameters) : Value :=
  Request.pack [
    some (.bytes parameters.clientDataHash),
    parameters.rp.map RelyingPartyEntity.toValue,
    parameters.user.map UserEntity.toValue,
    some (.array (parameters.algorithms.map CredentialParameters.toValue)),
    parameters.excludeList.map fun credentials => .array (credentials.map CredentialDescriptor.toValue),
    parameters.extensions.map (Dictionary.toValue id),
    parameters.options.map (Dictionary.toValue .bool),
    parameters.pinUvAuthParam.map .bytes,
    parameters.pinUvAuthProtocol.map .ofByte,
    parameters.enterpriseAttestation.map .unsigned]

/-- A new credential, attested by the authenticator. -/
structure Attestation where
  format : String
  authData : Bytes
  statement : Value
  enterprise : Option Bool
  largeBlobKey : Option Bytes

namespace Attestation

/-- The attestation that an answer holds. -/
def ofResponse (response : Response) : Result Attestation := do
  return {
    format := ← Result.ofOption (.missing "attestation format") (← response.field .text 0x01)
    authData := ← response.require .bytes 0x02
    statement := (response.get? 0x03).getD (.map [])
    enterprise := ← response.field .bool 0x04
    largeBlobKey := ← response.field .bytes 0x05 }

/-- The parts of the authenticator data. -/
def authenticatorData (attestation : Attestation) : Result AuthenticatorData :=
  AuthenticatorData.parse attestation.authData

end Attestation

end SecurityKey
