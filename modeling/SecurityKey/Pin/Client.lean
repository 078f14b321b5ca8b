import SecurityKey.Pin.Text
import SecurityKey.Pin.Token
import SecurityKey.Session.Basic

/-!
# PINs and tokens over a session

Setting and changing the PIN, and obtaining tokens. Every handshake starts with a key agreement; nothing derived from a
PIN is sent before the authenticator's key was accepted.
-/

namespace SecurityKey

open Cbor (Value)

/-- The arguments of the command for PINs. -/
structure PinParameters where
  pinUvAuthProtocol : Option UInt8 := none
  subCommand : UInt8
  keyAgreement : Option Value := none
  pinUvAuthParam : Option Bytes := none
  newPinEnc : Option Bytes := none
  pinHashEnc : Option Bytes := none
  permissions : Option UInt8 := none
  rpId : Option String := none

/-- The argument map of the parameters; the keys 7 and 8 are not assigned. -/
def PinParameters.toValue (parameters : PinParameters) : Value :=
  Request.pack [
    parameters.pinUvAuthProtocol.map .ofByte,
    some (.ofByte parameters.subCommand),
    parameters.keyAgreement,
    parameters.pinUvAuthParam.map .bytes,
    parameters.newPinEnc.map .bytes,
    parameters.pinHashEnc.map .bytes,
    none,
    none,
    parameters.permissions.map .ofByte,
    parameters.rpId.map .text]

/-- The attempts left before the PIN or the built-in user verification is blocked, and whether the authenticator has to
be powered off and on before the next one. -/
structure RetryState where
  retries : UInt64
  powerCycleState : Option Bool

namespace Pin

open Operation Session

/-- Sends the command for PINs. -/
def send (parameters : PinParameters) : Operation (Option Response) :=
  Session.send .clientPin (some parameters.toValue)

/-- The protocol to use: `protocol` when it is given, and otherwise the preferred one that the authenticator
supports. -/
def choose (protocol : Option PinProtocol) : Operation PinProtocol := do
  let session ← get
  match protocol with
  | some protocol => return protocol
  | none => PinProtocol.select session.info session.config.pinUvProtocols

/-- The parameters of a request with a protocol and a sub-command. -/
def parameters (protocol : PinProtocol) (subCommand : UInt8) : PinParameters :=
  { pinUvAuthProtocol := some protocol.version, subCommand }

/-- Stops unless the authenticator knows PINs. -/
def requireSupport : Operation Unit := do
  if !(← currentInfo).knowsPins then throw (.notSupported .clientPin)

/-- Agrees on a secret, with a new key on both sides. -/
def agree (protocol : PinProtocol) : Operation PinProtocol.Agreement := unattended do
  let response ← expectData "getKeyAgreement" (← send (parameters protocol 0x02))
  let key ← Result.ofOption (.missing "keyAgreement") (response.get? 0x01)
  let seed ← random 32
  (protocol.agree (.ofSeed seed) key).mapError Failure.crypto

/-- A text encrypted under a secret. -/
def encrypt (protocol : PinProtocol) (secret plain : Bytes) : Operation Bytes := do
  let iv ← random 16
  (protocol.encrypt secret iv plain).mapError Failure.crypto

/-- Sends a request for a token and decrypts the token. -/
def requestToken (protocol : PinProtocol) (agreement : PinProtocol.Agreement) (parameters : PinParameters) :
    Operation Token := do
  let response ← expectData "Token request"
    (← send { parameters with keyAgreement := some agreement.platformKey })
  let encrypted ← response.require .bytes 0x02
  let bytes ← (protocol.decrypt agreement.secret encrypted).mapError Failure.crypto
  return { protocol, bytes }

/-- The parameters that prove a PIN. They carry permissions and an RP ID only when the authenticator issues scoped
tokens and permissions are given. -/
def tokenParameters (protocol : PinProtocol) (canScope : Bool) (permissions : Option Permissions)
    (rpId : Option String) (pinHashEnc : Bytes) : PinParameters :=
  match canScope, permissions with
  | true, some permissions =>
    { parameters protocol 0x09 with
      pinHashEnc := some pinHashEnc, permissions := some permissions.byte, rpId }
  | _, _ => { parameters protocol 0x05 with pinHashEnc := some pinHashEnc }

/-- Exchanges a PIN for a token. An authenticator without scoped tokens is asked for an unlimited one, whatever
permissions are given. -/
def getToken (protocol : PinProtocol) (pin : String) (permissions : Option Permissions) (rpId : Option String) :
    Operation Token := unattended do
  requireSupport
  let canScope := (← currentInfo).issuesScopedTokens
  if canScope ∧ permissions.isNone ∧ rpId.isSome then throw (.invalidArgument .rpIdWithoutPermissions)
  let hash ← Pin.hash pin
  let agreement ← agree protocol
  let pinHashEnc ← encrypt protocol agreement.secret hash
  requestToken protocol agreement (tokenParameters protocol canScope permissions rpId pinHashEnc)

/-- Obtains a token through the authenticator's built-in user verification. -/
def getTokenByVerification (protocol : PinProtocol) (permissions : Permissions) (rpId : Option String) :
    Operation Token := do
  if !(← currentInfo).issuesScopedTokens then throw (.notSupported .uvToken)
  let agreement ← agree protocol
  requestToken protocol agreement
    { parameters protocol 0x06 with permissions := some permissions.byte, rpId }

/-- The attempts left for the PIN. -/
def getRetries (protocol : PinProtocol) : Operation RetryState := unattended do
  let response ← expectData "getPINRetries" (← send (parameters protocol 0x01))
  return { retries := ← response.require .unsigned 0x03, powerCycleState := ← response.field .bool 0x04 }

/-- The attempts left for the built-in user verification. -/
def getVerificationRetries (protocol : PinProtocol) : Operation RetryState := unattended do
  let response ← expectData "getUVRetries" (← send (parameters protocol 0x07))
  return { retries := ← response.require .unsigned 0x05, powerCycleState := none }

/-- The encrypted fields of a request that sets the first PIN. -/
structure SetMessage where
  newPinEnc : Bytes
  pinUvAuthParam : Bytes

/-- Seals a new PIN, which has to be acceptable. -/
def setMessage (protocol : PinProtocol) (secret : Bytes) (pin : String) : Operation SetMessage := do
  let padded ← preparePadded pin
  let newPinEnc ← encrypt protocol secret padded
  return { newPinEnc, pinUvAuthParam := protocol.authenticate secret newPinEnc }

/-- The encrypted fields of a request that replaces the PIN. -/
structure ChangeMessage where
  newPinEnc : Bytes
  pinHashEnc : Bytes
  pinUvAuthParam : Bytes

/-- Seals a new PIN and the proof of the current one, both of which have to be acceptable. -/
def changeMessage (protocol : PinProtocol) (secret : Bytes) (current new : String) : Operation ChangeMessage := do
  let padded ← preparePadded new
  let hash ← Pin.hash current
  let pinHashEnc ← encrypt protocol secret hash
  let newPinEnc ← encrypt protocol secret padded
  return { newPinEnc, pinHashEnc, pinUvAuthParam := protocol.authenticate secret (newPinEnc ++ pinHashEnc) }

/-- Sets the first PIN. The PIN is checked before anything is sent, and once more when it is sealed. -/
def setFirst (protocol : PinProtocol) (pin : String) : Operation Unit := unattended do
  requireSupport
  let _ ← prepare pin
  let agreement ← agree protocol
  let message ← setMessage protocol agreement.secret pin
  let _ ← send { parameters protocol 0x03 with
    keyAgreement := some agreement.platformKey
    pinUvAuthParam := some message.pinUvAuthParam
    newPinEnc := some message.newPinEnc }

/-- Replaces the PIN. Both PINs are checked before anything is sent, and once more when they are sealed. -/
def change (protocol : PinProtocol) (current new : String) : Operation Unit := unattended do
  requireSupport
  let _ ← prepare current
  let _ ← prepare new
  let agreement ← agree protocol
  let message ← changeMessage protocol agreement.secret current new
  let _ ← send { parameters protocol 0x04 with
    keyAgreement := some agreement.platformKey
    pinUvAuthParam := some message.pinUvAuthParam
    newPinEnc := some message.newPinEnc
    pinHashEnc := some message.pinHashEnc }

end Pin

end SecurityKey
