import SecurityKey.Pin.Token
import SecurityKey.Session.Basic

/-!
# Settings of an authenticator

Settings that hold for everybody who uses the authenticator. A token authorizes a change; without one the request goes
out unsigned, which an authenticator takes only as long as it has no PIN and no other user verification.
-/

namespace SecurityKey

open Cbor (Value)

namespace Settings

open Operation Session

/-- The bytes that tell a signed request for settings apart from the other ones: 32 bytes 0xFF and the command. -/
def domain : Bytes :=
  List.replicate 32 0xFF ++ [Command.config.byte]

/-- Stops unless the authenticator can be configured. -/
def requireSupport : Operation Unit := do
  if !(← currentInfo).supportsConfig then throw (.notSupported .authenticatorConfig)

/-- Sends the command for settings. -/
def send (parameters : SubCommandParameters) : Operation (Option Response) :=
  unattended (Session.send .config (some parameters.toValue))

/-- Sends a sub-command with its parameters, signed when there is a token. -/
def call (token : Option Token) (subCommand : UInt8) (params : Option Value) : Operation (Option Response) := do
  match token with
  | none => send { subCommand, subCommandParams := params }
  | some token =>
    let message ← Request.authenticated domain subCommand params
    send {
      subCommand
      subCommandParams := params
      pinUvAuthProtocol := some token.protocol.version
      pinUvAuthParam := some (token.authenticate message) }

/-- Enables enterprise attestation. -/
def enableEnterpriseAttestation (token : Option Token) : Operation Unit := do
  let _ ← call token 0x01 none

/-- Turns the demand for user verification in every operation on or off. -/
def toggleAlwaysVerify (token : Option Token) : Operation Unit := do
  let _ ← call token 0x02 none

/-- Raises the least length of a PIN and lists the relying parties that may read it. -/
def setMinPinLength (token : Option Token) (length : Option UInt64) (rpIds : Option (List String))
    (forceChange : Bool) : Operation Unit := do
  let params := Request.pack [
    length.map .unsigned,
    rpIds.map fun ids => .array (ids.map .text),
    some (.bool forceChange)]
  let _ ← call token 0x03 (some params)

/-- Sends a command of the vendor. -/
def vendorCommand (token : Option Token) (id : UInt64) : Operation (Option Response) :=
  call token 0xFF (some (Request.pack [some (.unsigned id)]))

end Settings

end SecurityKey
