import SecurityKey.Text.Hexadecimal

/-!
# Status codes

An authenticator's answer starts with a status code. Zero is success; the codes of the standard have a name and a
description, and vendors use further ones.
-/

namespace SecurityKey

/-- A status code of the standard. -/
structure Status where
  code : UInt8
  name : String
  description : String
  deriving DecidableEq

namespace Status

/-- The status codes of the standard, ascending. -/
def all : List Status := [
  ⟨0x00, "Ctap1ErrSuccess", "Indicates successful response."⟩,
  ⟨0x01, "Ctap1ErrInvalidCommand", "The command is not a valid CTAP command."⟩,
  ⟨0x02, "Ctap1ErrInvalidParameter", "The command included an invalid parameter."⟩,
  ⟨0x03, "Ctap1ErrInvalidLength", "Invalid message or item length."⟩,
  ⟨0x04, "Ctap1ErrInvalidSeq", "Invalid message sequencing."⟩,
  ⟨0x05, "Ctap1ErrTimeout", "Message timed out."⟩,
  ⟨0x06, "Ctap1ErrChannelBusy", "Channel busy."⟩,
  ⟨0x0A, "Ctap1ErrLockRequired", "Command requires channel lock."⟩,
  ⟨0x0B, "Ctap1ErrInvalidChannel", "Command not allowed on this cid."⟩,
  ⟨0x11, "Ctap2ErrCborUnexpectedType", "Invalid/unexpected CBOR error."⟩,
  ⟨0x12, "Ctap2ErrInvalidCbor", "Error when parsing CBOR."⟩,
  ⟨0x14, "Ctap2ErrMissingParameter", "Missing non-optional parameter."⟩,
  ⟨0x15, "Ctap2ErrLimitExceeded", "Limit for number of items exceeded."⟩,
  ⟨0x16, "Ctap2ErrUnsupportedExtension", "Unsupported extension."⟩,
  ⟨0x17, "Ctap2ErrFpDatabaseFull", "Fingerprint data base is full, e.g., during enrollment."⟩,
  ⟨0x18, "Ctap2ErrLargeBlobStorageFull", "Large blob storage is full."⟩,
  ⟨0x19, "Ctap2ErrCredentialExcluded", "Valid credential found in the exclude list."⟩,
  ⟨0x21, "Ctap2ErrProcessing", "Processing (Lengthy operation is in progress)."⟩,
  ⟨0x22, "Ctap2ErrInvalidCredential", "Credential not valid for the authenticator."⟩,
  ⟨0x23, "Ctap2ErrUserActionPending", "Authentication is waiting for user interaction."⟩,
  ⟨0x24, "Ctap2ErrOperationPending", "Processing, lengthy operation is in progress."⟩,
  ⟨0x25, "Ctap2ErrNoOperations", "No request is pending."⟩,
  ⟨0x26, "Ctap2ErrUnsupportedAlgorithm", "Authenticator does not support requested algorithm."⟩,
  ⟨0x27, "Ctap2ErrOperationDenied", "Not authorized for requested operation."⟩,
  ⟨0x28, "Ctap2ErrKeyStoreFull", "Internal key storage is full."⟩,
  ⟨0x29, "Ctap2ErrNotBusy", "Authenticator is not busy."⟩,
  ⟨0x2A, "Ctap2ErrNoOperationPending", "No outstanding operations."⟩,
  ⟨0x2B, "Ctap2ErrUnsupportedOption", "Unsupported option."⟩,
  ⟨0x2C, "Ctap2ErrInvalidOption", "Not a valid option for current operation."⟩,
  ⟨0x2D, "Ctap2ErrKeepaliveCancel", "Pending keep alive was cancelled."⟩,
  ⟨0x2E, "Ctap2ErrNoCredentials", "No valid credentials provided."⟩,
  ⟨0x2F, "Ctap2ErrUserActionTimeout", "A user action timeout occurred."⟩,
  ⟨0x30, "Ctap2ErrNotAllowed", "Continuation command, such as, authenticatorGetNextAssertion not allowed."⟩,
  ⟨0x31, "Ctap2ErrPinInvalid", "PIN Invalid."⟩,
  ⟨0x32, "Ctap2ErrPinBlocked", "PIN Blocked."⟩,
  ⟨0x33, "Ctap2ErrPinAuthInvalid", "PIN authentication,pinUvAuthParam, verification failed."⟩,
  ⟨0x34, "Ctap2ErrPinAuthBlocked",
    "PIN authentication using pinUvAuthToken blocked. Requires power cycle to reset."⟩,
  ⟨0x35, "Ctap2ErrPinNotSet", "No PIN has been set."⟩,
  ⟨0x36, "Ctap2ErrPuatRequired", "A pinUvAuthToken is required for the selected operation."⟩,
  ⟨0x37, "Ctap2ErrPinPolicyViolation", "PIN policy violation. Currently only enforces minimum length."⟩,
  ⟨0x38, "Ctap2ErrPinTokenExpired", "pinUvAuthToken expired on authenticator."⟩,
  ⟨0x39, "Ctap2ErrRequestTooLarge", "Authenticator cannot handle this request due to memory constraints."⟩,
  ⟨0x3A, "Ctap2ErrActionTimeout", "The current operation has timed out."⟩,
  ⟨0x3B, "Ctap2ErrUpRequired", "User presence is required for the requested operation."⟩,
  ⟨0x3C, "Ctap2ErrUvBlocked", "built-in user verification is disabled."⟩,
  ⟨0x3D, "Ctap2ErrIntegrityFailure", "A checksum did not match."⟩,
  ⟨0x3E, "Ctap2ErrInvalidSubcommand", "The requested subcommand is either invalid or not implemented."⟩,
  ⟨0x3F, "Ctap2ErrUvInvalid", "built-in user verification unsuccessful. The platform SHOULD retry."⟩,
  ⟨0x40, "Ctap2ErrUnauthorizedPermission", "The permissions parameter contains an unauthorized permission."⟩,
  ⟨0x7F, "Ctap1ErrOther", "Other unspecified error."⟩,
  ⟨0xDF, "Ctap2ErrSpecLast", "CTAP 2 spec last error."⟩,
  ⟨0xE0, "Ctap2ErrExtensionFirst", "Extension specific error."⟩,
  ⟨0xEF, "Ctap2ErrExtensionLast", "Extension specific error."⟩,
  ⟨0xF0, "Ctap2ErrVendorFirst", "Vendor specific error."⟩,
  ⟨0xFF, "Ctap2ErrVendorLast", "Vendor specific error."⟩]

/-- The status of the standard with the code `code`. -/
def ofCode? (code : UInt8) : Option Status :=
  all.find? (·.code == code)

/-- The code for an option that does not fit the operation. -/
def invalidOption : UInt8 := 0x2C

/-- The code for a command that was given up after it was cancelled. -/
def keepaliveCancel : UInt8 := 0x2D

/-- The code for a request that no credential answers. -/
def noCredentials : UInt8 := 0x2E

/-- The code for full key storage. -/
def keyStoreFull : UInt8 := 0x28

/-- The code for a wrong PIN. -/
def pinInvalid : UInt8 := 0x31

/-- The code for a PIN that is blocked for good. -/
def pinBlocked : UInt8 := 0x32

/-- The code for a PIN that is blocked until the authenticator is powered off and on. -/
def pinAuthBlocked : UInt8 := 0x34

/-- The code for blocked built-in user verification. -/
def uvBlocked : UInt8 := 0x3C

/-- Whether no further PIN is tried, for good or until the authenticator is powered off and on. -/
def blocksPin (code : UInt8) : Bool :=
  code == pinBlocked || code == pinAuthBlocked

/-- The text of a status code in a message. -/
def describe (code : UInt8) : String :=
  let number := "CTAP error 0x" ++ Text.paddedHexadecimal 2 code.toNat
  match ofCode? code with
  | some status => number ++ " (" ++ status.name ++ "): " ++ status.description
  | none => number

end Status

end SecurityKey
