import SecurityKey.Credential.Creation

/-!
# Assertions

The arguments with which an authenticator signs for a relying party, and the assertion it answers with.
-/

namespace SecurityKey

open Cbor (Value)

/-- The arguments with which an assertion is asked for. -/
structure AssertionParameters where
  rpId : String
  clientDataHash : Bytes
  allowList : Option (List CredentialDescriptor) := none
  extensions : Option (Dictionary String Value) := none
  options : Option (Dictionary String Bool) := none
  pinUvAuthParam : Option Bytes := none
  pinUvAuthProtocol : Option UInt8 := none

/-- The argument map of the parameters. -/
def AssertionParameters.toValue (parameters : AssertionParameters) : Value :=
  Request.pack [
    some (.text parameters.rpId),
    some (.bytes parameters.clientDataHash),
    parameters.allowList.map fun credentials => .array (credentials.map CredentialDescriptor.toValue),
    parameters.extensions.map (Dictionary.toValue id),
    parameters.options.map (Dictionary.toValue .bool),
    parameters.pinUvAuthParam.map .bytes,
    parameters.pinUvAuthProtocol.map .ofByte]

/-- A signature with one credential. -/
structure Assertion where
  credential : Option CredentialDescriptor
  authData : Bytes
  signature : Bytes
  user : Option UserEntity
  numberOfCredentials : Option UInt64
  userSelected : Option Bool
  largeBlobKey : Option Bytes

namespace Assertion

/-- The assertion that an answer holds. -/
def ofResponse (response : Response) : Result Assertion := do
  return {
    credential := ← (response.get? 0x01).mapM (Entity.read CredentialDescriptor.ofValue?)
    authData := ← response.require .bytes 0x02
    signature := ← response.require .bytes 0x03
    user := ← (response.get? 0x04).mapM (Entity.read UserEntity.ofValue?)
    numberOfCredentials := ← response.field .unsigned 0x05
    userSelected := ← response.field .bool 0x06
    largeBlobKey := ← response.field .bytes 0x07 }

/-- The parts of the authenticator data. -/
def authenticatorData (assertion : Assertion) : Result AuthenticatorData :=
  AuthenticatorData.parse assertion.authData

end Assertion

end SecurityKey
