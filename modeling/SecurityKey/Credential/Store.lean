import SecurityKey.Pin.Token
import SecurityKey.Session.Basic

/-!
# The credentials on an authenticator

Listing, removing and renaming the discoverable credentials that an authenticator stores, authorized by a token. A
listing begins with one request that a token authorizes and goes on with bare ones, as many as the first answer
announces.
-/

namespace SecurityKey

open Cbor (Value)

namespace CredentialStore

open Operation Session

/-- How many credentials are stored, and how many more fit. -/
structure Usage where
  existing : UInt64
  maxRemaining : UInt64

/-- A relying party that has credentials on the authenticator. -/
structure RelyingParty where
  entity : RelyingPartyEntity
  idHash : Bytes

/-- The relying party that an answer describes. -/
def RelyingParty.ofResponse (response : Response) : Result RelyingParty := do
  let entity ← Result.ofOption (.missing "rp") (response.get? 0x03)
  return {
    entity := ← Entity.read RelyingPartyEntity.ofValue? entity
    idHash := ← response.require .bytes 0x04 }

/-- A stored credential. -/
structure StoredCredential where
  user : UserEntity
  descriptor : CredentialDescriptor
  publicKey : Value
  protection : Option UInt64
  largeBlobKey : Option Bytes

/-- The credential that an answer describes. -/
def StoredCredential.ofResponse (response : Response) : Result StoredCredential := do
  let user ← Result.ofOption (.missing "user") (response.get? 0x06)
  let user ← Entity.read UserEntity.ofValue? user
  let descriptor ← Result.ofOption (.missing "credentialID") (response.get? 0x07)
  let descriptor ← Entity.read CredentialDescriptor.ofValue? descriptor
  return {
    user
    descriptor
    publicKey := ← Result.ofOption (.missing "publicKey") (response.get? 0x08)
    protection := ← response.field .unsigned 0x0A
    largeBlobKey := ← response.field .bytes 0x0B }

/-- Stops unless the authenticator manages credentials. -/
def requireSupport : Operation Unit := do
  if !(← currentInfo).supportsCredentialManagement then throw (.notSupported .credentialManagement)

/-- Sends the command for credential management, in its preview form where that is the one the authenticator knows. -/
def send (parameters : SubCommandParameters) : Operation (Option Response) := unattended do
  let command ← flavor "credMgmt" .credentialManagement .credentialManagementPreview
  Session.send command (some parameters.toValue)

/-- Sends a sub-command that a token authorizes. -/
def callSigned (token : Token) (subCommand : UInt8) (params : Option Value) : Operation (Option Response) := do
  let message ← Request.authenticated [] subCommand params
  send {
    subCommand
    subCommandParams := params
    pinUvAuthProtocol := some token.protocol.version
    pinUvAuthParam := some (token.authenticate message) }

/-- The data that answers a sub-command. -/
def expect (subCommand : UInt8) (response : Option Response) : Result Response :=
  expectData ("Sub-command 0x" ++ Text.paddedHexadecimal 2 subCommand.toNat) response

/-- Asks for the next item of a listing. -/
def next (subCommand : UInt8) (read : Response → Result α) : Operation α := do
  let response ← expect subCommand (← send { subCommand })
  read response

/-- The items of a listing of which the first answer announces `total`; those after the first one are asked for with
`continuation`. -/
def collect (continuation : UInt8) (read : Response → Result α) (first : Response) (total : UInt64) :
    Operation (List α) := do
  let item ← read first
  return item :: (← repeated (next continuation read) (total.toNat - 1))

/-- The answer to the request that begins a listing, absent when a status says that there is nothing to list. -/
def begun (request : Operation (Option Response)) : Operation (Option Response) :=
  tryCatch request fun
    | .status code => if code = Status.noCredentials then return none else throw (.status code)
    | failure => throw failure

/-- Asks how many credentials are stored. -/
def getUsage (token : Token) : Operation Usage := do
  let response ← expect 0x01 (← callSigned token 0x01 none)
  return { existing := ← response.require .unsigned 0x01, maxRemaining := ← response.require .unsigned 0x02 }

/-- Lists the relying parties that have credentials. An answer without data or without a total says that there are
none. -/
def listRelyingParties (token : Token) : Operation (List RelyingParty) := do
  match ← begun (callSigned token 0x02 none) with
  | none => return []
  | some first =>
    match (← first.field .unsigned 0x05).getD 0 with
    | 0 => return []
    | total => collect 0x03 RelyingParty.ofResponse first total

/-- Lists the credentials of the relying party whose ID has the hash `rpIdHash`. An answer without a total holds the
only one. -/
def listCredentials (token : Token) (rpIdHash : Bytes) : Operation (List StoredCredential) := do
  let request : Operation (Option Response) := do
    return some (← expect 0x04 (← callSigned token 0x04 (some (Request.pack [some (.bytes rpIdHash)]))))
  match ← begun request with
  | none => return []
  | some first => collect 0x05 StoredCredential.ofResponse first ((← first.field .unsigned 0x09).getD 1)

/-- Removes a credential. -/
def remove (token : Token) (credential : CredentialDescriptor) : Operation Unit := do
  let _ ← callSigned token 0x06 (some (Request.pack [none, some credential.toValue]))

/-- Replaces the user of a credential. -/
def updateUser (token : Token) (credential : CredentialDescriptor) (user : UserEntity) : Operation Unit := do
  let _ ← callSigned token 0x07 (some (Request.pack [none, some credential.toValue, some user.toValue]))

end CredentialStore

end SecurityKey
