import SecurityKey.Cbor.Canonical
import SecurityKey.Cbor.Reader
import SecurityKey.Failure

/-!
# Requests

A request is a command byte with at most one argument map after it. Arguments are positional: the map holds them under
the keys 1, 2, …, and leaves out those that are absent.
-/

namespace SecurityKey

open Cbor (Value)

/-- What an authenticator is asked to do. The preview commands are those of authenticators that know enrollment and
credential management in an earlier form only. -/
inductive Command where
  | makeCredential
  | getAssertion
  | getInfo
  | clientPin
  | reset
  | getNextAssertion
  | bioEnrollment
  | credentialManagement
  | selection
  | largeBlobs
  | config
  | bioEnrollmentPreview
  | credentialManagementPreview
  deriving DecidableEq

namespace Command

/-- All commands, in the order of their bytes. -/
def all : List Command :=
  [makeCredential, getAssertion, getInfo, clientPin, reset, getNextAssertion, bioEnrollment, credentialManagement,
    selection, largeBlobs, config, bioEnrollmentPreview, credentialManagementPreview]

/-- The first byte of a request. -/
def byte : Command → UInt8
  | makeCredential => 0x01
  | getAssertion => 0x02
  | getInfo => 0x04
  | clientPin => 0x06
  | reset => 0x07
  | getNextAssertion => 0x08
  | bioEnrollment => 0x09
  | credentialManagement => 0x0A
  | selection => 0x0B
  | largeBlobs => 0x0C
  | config => 0x0D
  | bioEnrollmentPreview => 0x40
  | credentialManagementPreview => 0x41

/-- The name of a command in a message. -/
def name : Command → String
  | makeCredential => "MakeCredential"
  | getAssertion => "GetAssertion"
  | getInfo => "GetInfo"
  | clientPin => "ClientPin"
  | reset => "Reset"
  | getNextAssertion => "GetNextAssertion"
  | bioEnrollment => "BioEnrollment"
  | credentialManagement => "CredentialManagement"
  | selection => "Selection"
  | largeBlobs => "LargeBlobs"
  | config => "Config"
  | bioEnrollmentPreview => "BioEnrollmentPreview"
  | credentialManagementPreview => "CredentialManagementPreview"

/-- The command that a byte stands for. -/
def ofByte? (b : UInt8) : Option Command :=
  all.find? (·.byte == b)

theorem ofByte?_byte (c : Command) : ofByte? c.byte = some c := by
  cases c <;> rfl

end Command

namespace Request

/-- The entries of an argument map whose first argument has the key `position`. -/
def packFrom (position : UInt64) : List (Option Value) → List (Value × Value)
  | [] => []
  | none :: arguments => packFrom (position + 1) arguments
  | some argument :: arguments => (.unsigned position, argument) :: packFrom (position + 1) arguments

/-- The argument map with the given arguments, counted from 1. -/
def pack (arguments : List (Option Value)) : Value :=
  .map (packFrom 1 arguments)

/-- The canonical form of a value as part of a request. -/
def canonical (value : Value) : Result Bytes :=
  value.canonical.mapError fun refused => .encoding (.mapKey refused)

/-- Whether a byte string is the canonical form of the value that it starts with. -/
def isCanonical (encoded : Bytes) : Bool :=
  match (Value.read? encoded).map canonical with
  | some (.ok canonical) => canonical == encoded
  | _ => false

/-- The bytes of a request. -/
def encode (command : Command) (arguments : Option Value) : Result Bytes := do
  match arguments with
  | none => return [command.byte]
  | some arguments => return command.byte :: (← canonical arguments)

/-- The message that a token authenticates for a sub-command. The bytes `domain` tell the commands apart that have
sub-commands. -/
def authenticated (domain : Bytes) (subCommand : UInt8) (params : Option Value) : Result Bytes := do
  match params with
  | none => return domain ++ [subCommand]
  | some params => return domain ++ subCommand :: (← canonical params)

end Request

/-- The arguments of a command with sub-commands. -/
structure SubCommandParameters where
  subCommand : UInt8
  subCommandParams : Option Value := none
  pinUvAuthProtocol : Option UInt8 := none
  pinUvAuthParam : Option Bytes := none

/-- The argument map of the parameters. -/
def SubCommandParameters.toValue (parameters : SubCommandParameters) : Value :=
  Request.pack [
    some (.ofByte parameters.subCommand),
    parameters.subCommandParams,
    parameters.pinUvAuthProtocol.map .ofByte,
    parameters.pinUvAuthParam.map .bytes]

end SecurityKey
