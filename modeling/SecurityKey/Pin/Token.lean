import SecurityKey.BitSet
import SecurityKey.Pin.Protocol

/-!
# Tokens

A token stands for a verified user. It authorizes requests by the authentication code of their contents, and can be
limited to some operations.
-/

namespace SecurityKey

/-- An operation that a token may be limited to. -/
inductive Permission where
  | makeCredential
  | getAssertion
  | credentialManagement
  | bioEnrollment
  | largeBlobWrite
  | authenticatorConfig
  | userPresenceRequired
  deriving DecidableEq

/-- The bit of a permission. -/
def Permission.mask : Permission → UInt8
  | makeCredential => 0x01
  | getAssertion => 0x02
  | credentialManagement => 0x04
  | bioEnrollment => 0x08
  | largeBlobWrite => 0x10
  | authenticatorConfig => 0x20
  | userPresenceRequired => 0x40

/-- The name of a permission in a description. -/
def Permission.name : Permission → String
  | makeCredential => "make_credential"
  | getAssertion => "get_assertion"
  | credentialManagement => "credential_management"
  | bioEnrollment => "bio_enrollment"
  | largeBlobWrite => "large_blob_write"
  | authenticatorConfig => "authenticator_config"
  | userPresenceRequired => "user_presence_required"

instance : NamedBits Permission where
  members := [.makeCredential, .getAssertion, .credentialManagement, .bioEnrollment, .largeBlobWrite,
    .authenticatorConfig, .userPresenceRequired]
  mask := Permission.mask
  name := Permission.name
  title := "Permissions"

/-- The operations that a token may be limited to. -/
abbrev Permissions := BitSet Permission

/-- A token and the version of the protocol it was obtained with. -/
structure Token where
  protocol : PinProtocol
  bytes : Bytes
  deriving DecidableEq

namespace Token

/-- The authentication code of a request that the token authorizes. -/
def authenticate (token : Token) (message : Bytes) : Bytes :=
  token.protocol.authenticate token.bytes message

/-- A text that names the token's protocol and keeps its bytes secret. -/
def describe (token : Token) : String :=
  "PinUvToken \x7b protocol: " ++ token.protocol.name ++ ", .. \x7d"

end Token

end SecurityKey
