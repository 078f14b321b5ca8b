import SecurityKey.Cbor.Description
import SecurityKey.Crypto.Failure
import SecurityKey.Link.Failure
import SecurityKey.Status

/-!
# Failures

Every way in which an operation on an authenticator can fail, by its cause, and the text of each in one place.
-/

namespace SecurityKey

open Cbor (Value)

/-- What is wrong with an answer of an authenticator. -/
inductive Malformation where
  | notCbor
  | notMap (found : Value)
  | mapKey (found : Value)
  | fieldKind (key : UInt64) (kind : String) (found : Value)
  | missingField (key : UInt64)
  | listKind (key : UInt64) (kind : String)
  | entryKind (field : String) (key value : Value)
  | aaguidLength
  | entity
  | noData (request : String)
  | missing (part : String)
  | outOfRange (part : String) (found : UInt64)
  | fingerprintKind (found : UInt64)
  | templateKind
  | templateWithoutId
  | shortAuthenticatorData
  | emptyRegistration
  | reservedByte (found : UInt8)
  | shortRegistration
  | shortKeyHandle
  | certificate
  | certificateKey
  | shortSignature
  | versionText

/-- The text of a malformation. -/
def Malformation.message : Malformation → String
  | notCbor => "Invalid CBOR"
  | notMap found => "Expected a CBOR map, got " ++ found.describe
  | mapKey found => "Unexpected map key " ++ found.describe
  | fieldKind key kind found =>
    "Field 0x" ++ Text.paddedHexadecimal 2 key.toNat ++ " should be " ++ kind ++ ", got " ++ found.describe
  | missingField key => "Missing field 0x" ++ Text.paddedHexadecimal 2 key.toNat
  | listKind key kind => "Field 0x" ++ Text.paddedHexadecimal 2 key.toNat ++ " should only hold " ++ kind
  | entryKind field key value => "Unexpected " ++ field ++ " entry " ++ key.describe ++ " => " ++ value.describe
  | aaguidLength => "AAGUID must be 16 bytes"
  | entity => "serde"
  | noData request => request ++ " returned no data"
  | missing part => "Missing " ++ part
  | outOfRange part found => part ++ " " ++ toString found.toNat ++ " out of range"
  | fingerprintKind found => "Unknown fingerprint kind " ++ toString found.toNat
  | templateKind => "Template info should be a map"
  | templateWithoutId => "Template info without an ID"
  | shortAuthenticatorData => "Authenticator data is too short"
  | emptyRegistration => "Empty registration data"
  | reservedByte found =>
    "Registration data starts with 0x" ++ Text.paddedHexadecimal 2 found.toNat ++ " instead of 0x05"
  | shortRegistration => "Registration data is too short"
  | shortKeyHandle => "Key handle is truncated"
  | certificate => "Malformed attestation certificate"
  | certificateKey => "Cannot find the attestation certificate key"
  | shortSignature => "Signature data is too short"
  | versionText => "U2F version is not UTF-8"

/-- Why a value has no encoding. -/
inductive EncodingFault where
  | mapKey (found : Value)
  | keyHandleTooLong

/-- The text of an encoding fault. -/
def EncodingFault.message : EncodingFault → String
  | mapKey found =>
    "Encountered a map key that isn't an integer, text or byte string: " ++ found.describe
  | keyHandleTooLong => "Key handle is too long"

/-- Why a PIN is refused before anything is sent. -/
inductive PinFault where
  | tooShort
  | tooLong
  deriving DecidableEq

/-- The text of a PIN fault. -/
def PinFault.message : PinFault → String
  | tooShort => "PIN must be at least 4 characters"
  | tooLong => "PIN must be no more than 63 bytes"

/-- Why arguments make no request. -/
inductive ArgumentFault where
  | rpIdWithoutPermissions
  | keyHandleTooLong (length : Nat)
  | publicKeyForm
  deriving DecidableEq

/-- The text of an argument fault. -/
def ArgumentFault.message : ArgumentFault → String
  | rpIdWithoutPermissions => "An RP ID can only scope a token together with permissions"
  | keyHandleTooLong length => "Key handle of " ++ toString length ++ " bytes is too long"
  | publicKeyForm => "Public key must be an uncompressed P-256 point"

/-- What an authenticator may lack. -/
inductive Feature where
  | commonPinProtocol
  | clientPin
  | uvToken
  | bioEnrollment
  | credentialManagement
  | authenticatorConfig
  deriving DecidableEq

/-- The text of a feature. -/
def Feature.describe : Feature → String
  | commonPinProtocol => "A common PIN/UV auth protocol"
  | clientPin => "ClientPIN"
  | uvToken => "pinUvAuthToken"
  | bioEnrollment => "Bio enrollment"
  | credentialManagement => "Credential management"
  | authenticatorConfig => "Authenticator config"

/-- Why an operation failed. -/
inductive Failure where
  | link (failure : Link.Failure)
  | status (code : UInt8)
  | badResponse (malformation : Malformation)
  | encoding (fault : EncodingFault)
  | invalidPin (fault : PinFault)
  | invalidArgument (fault : ArgumentFault)
  | notSupported (feature : Feature)
  | modality (requested reported : UInt8)
  | rejectedSample (feedback : UInt8)
  | crypto (failure : Crypto.Failure)
  | credentialExcluded

/-- The text of a rejected fingerprint sample. -/
def describeRejectedSample (feedback : UInt8) : String :=
  "Fingerprint sample rejected with feedback 0x" ++ Text.paddedHexadecimal 2 feedback.toNat

/-- The text of a failure. -/
def Failure.message : Failure → String
  | link failure => failure.message
  | status code => Status.describe code
  | badResponse malformation => "Malformed authenticator response: " ++ malformation.message
  | encoding fault => "Could not encode command: " ++ fault.message
  | invalidPin fault => "Invalid PIN: " ++ fault.message
  | invalidArgument fault => "Invalid argument: " ++ fault.message
  | notSupported feature => feature.describe ++ " is not supported by the authenticator"
  | modality requested reported =>
    "Requested modality " ++ toString requested.toNat ++ " but the authenticator reports modality " ++
      toString reported.toNat
  | rejectedSample feedback => describeRejectedSample feedback
  | crypto failure => failure.message
  | credentialExcluded => "Credential in the exclude list is already registered"

/-- A result, or the reason why there is none. -/
abbrev Result (α : Type) := Except Failure α

/-- A result whose malformed answer is reported as a failure. -/
def Result.ofOption (malformation : Malformation) : Option α → Result α
  | some a => .ok a
  | none => .error (.badResponse malformation)

end SecurityKey
