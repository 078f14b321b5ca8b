import SecurityKey.Crypto.CoseKey

/-!
# Cryptographic failures
-/

namespace SecurityKey.Crypto

/-- Why a cryptographic operation failed. -/
inductive Failure where
  | unspecified
  | keyLength (length : Nat)
  | dataLength (length : Nat)
  | peerKey (fault : KeyFault)
  | signature
  deriving DecidableEq

/-- The text of a failure. -/
def Failure.message : Failure → String
  | unspecified => "Unspecified ring error"
  | keyLength length => "Key of " ++ toString length ++ " bytes is invalid for this protocol"
  | dataLength length => "Data of " ++ toString length ++ " bytes is not a whole number of AES blocks"
  | peerKey fault => "Invalid authenticator key: " ++ fault.message
  | signature => "Signature verification failed"

end SecurityKey.Crypto
