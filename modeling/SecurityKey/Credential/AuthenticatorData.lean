import SecurityKey.BitSet
import SecurityKey.Failure

/-!
# Authenticator data

What an authenticator signs starts with 37 bytes: the hash of the relying party's ID, flags and a counter. Credential
data and extensions after them are kept unread.
-/

namespace SecurityKey

/-- A flag of authenticator data. -/
inductive DataFlag where
  | userPresent
  | userVerified
  | backupEligible
  | backedUp
  | attestedDataIncluded
  | extensionDataIncluded
  deriving DecidableEq

/-- The bit of a flag; bits 1 and 5 are reserved. -/
def DataFlag.mask : DataFlag → UInt8
  | userPresent => 0x01
  | userVerified => 0x04
  | backupEligible => 0x08
  | backedUp => 0x10
  | attestedDataIncluded => 0x40
  | extensionDataIncluded => 0x80

/-- The name of a flag in a description. -/
def DataFlag.name : DataFlag → String
  | userPresent => "user_present"
  | userVerified => "user_verified"
  | backupEligible => "backup_eligible"
  | backedUp => "backed_up"
  | attestedDataIncluded => "attested_data_included"
  | extensionDataIncluded => "extension_data_included"

instance : NamedBits DataFlag where
  members := [.userPresent, .userVerified, .backupEligible, .backedUp, .attestedDataIncluded, .extensionDataIncluded]
  mask := DataFlag.mask
  name := DataFlag.name
  title := "AuthenticatorDataFlags"

/-- The flags of authenticator data. -/
abbrev DataFlags := BitSet DataFlag

/-- The start of authenticator data, and what follows it. -/
structure AuthenticatorData where
  rpIdHash : Bytes
  flags : DataFlags
  counter : UInt32
  rest : Bytes

/-- The bytes of authenticator data. -/
def AuthenticatorData.toBytes (data : AuthenticatorData) : Bytes :=
  data.rpIdHash ++ data.flags.byte :: (Bytes.ofNat 4 data.counter.toNat ++ data.rest)

/-- The parts of authenticator data. -/
def AuthenticatorData.parse (data : Bytes) : Result AuthenticatorData :=
  match Bytes.splitAt? 32 data with
  | some (rpIdHash, flags :: c0 :: c1 :: c2 :: c3 :: rest) =>
    .ok { rpIdHash, flags := ⟨flags⟩, counter := .ofNat (Bytes.toNat [c0, c1, c2, c3]), rest }
  | _ => .error (.badResponse .shortAuthenticatorData)

end SecurityKey
