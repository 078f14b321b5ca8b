import SecurityKey.Dictionary
import SecurityKey.Entity
import SecurityKey.Response

/-!
# Authenticator info

What an authenticator reports about itself. Fields that it leaves out have the values of the standard.
-/

namespace SecurityKey

open Cbor (Value)

/-- What an authenticator reports about itself. -/
structure Info where
  versions : List String := []
  extensions : List String := []
  aaguid : Bytes := List.replicate 16 0
  options : Dictionary String Bool := .empty
  maxMsgSize : UInt64 := 1024
  pinUvAuthProtocols : List UInt64 := []
  maxCredentialCountInList : Option UInt64 := none
  maxCredentialIdLength : Option UInt64 := none
  transports : List String := []
  algorithms : List CredentialParameters := []
  maxSerializedLargeBlobArray : Option UInt64 := none
  forcePinChange : Bool := false
  minPinLength : UInt64 := 4
  firmwareVersion : Option UInt64 := none
  maxCredBlobLength : Option UInt64 := none
  maxRpidsForSetMinPinLength : Option UInt64 := none
  preferredPlatformUvAttempts : Option UInt64 := none
  uvModality : Option UInt64 := none
  certifications : Dictionary String UInt64 := .empty
  remainingDiscoverableCredentials : Option UInt64 := none
  vendorPrototypeConfigCommands : List UInt64 := []

namespace Info

/-- The version of authenticators with preview commands. -/
def fido21Pre : String := "FIDO_2_1_PRE"

/-- The dictionary of a field whose entries have text keys and values of the kind `read`. -/
def dictionary (field : String) (read : Value → Option α) (entries : List (Value × Value)) :
    Result (Dictionary String α) := do
  let pairs ← entries.mapM fun (key, value) =>
    match key.text?, read value with
    | some name, some content => pure (name, content)
    | _, _ => Except.error (.badResponse (.entryKind field key value))
  return .ofList pairs

/-- The dictionary under a key, empty when it is absent. -/
def dictionaryField (response : Response) (field : String) (read : Value → Option α) (key : UInt64) :
    Result (Dictionary String α) := do
  match ← response.field .map key with
  | some entries => dictionary field read entries
  | none => return .empty

/-- The identifier of the authenticator's model, zeros when it is absent. -/
def aaguidField (response : Response) (key : UInt64) : Result Bytes := do
  match ← response.field .bytes key with
  | some aaguid => if aaguid.length = 16 then return aaguid else throw (.badResponse .aaguidLength)
  | none => return List.replicate 16 0

/-- The info that an answer holds. -/
def ofResponse (response : Response) : Result Info := do
  let aaguid ← aaguidField response 0x03
  let options ← dictionaryField response "options" Value.bool? 0x04
  let certifications ← dictionaryField response "certifications" Value.unsigned? 0x13
  let algorithms ← ((← response.field .array 0x0A).getD []).mapM (Entity.read CredentialParameters.ofValue?)
  return {
    versions := ← response.texts 0x01
    extensions := ← response.texts 0x02
    aaguid
    options
    maxMsgSize := (← response.field .unsigned 0x05).getD 1024
    pinUvAuthProtocols := ← response.unsigneds 0x06
    maxCredentialCountInList := ← response.field .unsigned 0x07
    maxCredentialIdLength := ← response.field .unsigned 0x08
    transports := ← response.texts 0x09
    algorithms
    maxSerializedLargeBlobArray := ← response.field .unsigned 0x0B
    forcePinChange := (← response.field .bool 0x0C).getD false
    minPinLength := (← response.field .unsigned 0x0D).getD 4
    firmwareVersion := ← response.field .unsigned 0x0E
    maxCredBlobLength := ← response.field .unsigned 0x0F
    maxRpidsForSetMinPinLength := ← response.field .unsigned 0x10
    preferredPlatformUvAttempts := ← response.field .unsigned 0x11
    uvModality := ← response.field .unsigned 0x12
    certifications
    remainingDiscoverableCredentials := ← response.field .unsigned 0x14
    vendorPrototypeConfigCommands := ← response.unsigneds 0x15 }

/-- Whether an option is listed and on. -/
def isOn (info : Info) (option : String) : Bool :=
  info.options.get? option == some true

/-- Whether a version is listed. -/
def supportsVersion (info : Info) (version : String) : Bool :=
  info.versions.contains version

/-- Whether the authenticator knows PINs, set or not. -/
def knowsPins (info : Info) : Bool :=
  info.options.contains "clientPin"

/-- Whether the authenticator issues tokens with permissions. -/
def issuesScopedTokens (info : Info) : Bool :=
  info.isOn "pinUvAuthToken"

/-- Whether fingerprints can be enrolled, with the command of the standard or with the preview one. -/
def supportsBioEnrollment (info : Info) : Bool :=
  info.options.contains "bioEnroll" ||
    (info.supportsVersion fido21Pre && info.options.contains "userVerificationMgmtPreview")

/-- Whether credentials can be managed, with the command of the standard or with the preview one. -/
def supportsCredentialManagement (info : Info) : Bool :=
  info.isOn "credMgmt" || (info.supportsVersion fido21Pre && info.isOn "credentialMgmtPreview")

/-- Whether the authenticator can be configured. -/
def supportsConfig (info : Info) : Bool :=
  info.isOn "authnrCfg"

end Info

end SecurityKey
