import SecurityKey.U2f.Registration

/-!
# U2F signatures

The answer to a U2F authentication: a byte about the user's presence, a counter and the signature.
-/

namespace SecurityKey.U2f

/-- A signature with a registered key. -/
structure Signature where
  presence : UInt8
  counter : UInt32
  signature : Bytes
  deriving DecidableEq

namespace Signature

/-- The signature that an answer holds. -/
def parse (data : Bytes) : Result Signature :=
  match data with
  | presence :: c0 :: c1 :: c2 :: c3 :: signature =>
    .ok { presence, counter := .ofNat (Bytes.toNat [c0, c1, c2, c3]), signature }
  | _ => .error (.badResponse .shortSignature)

/-- Whether the user was present. -/
def isUserPresent (signature : Signature) : Bool :=
  signature.presence &&& 0x01 != 0

/-- The message that the signature covers. -/
def signedData (signature : Signature) (application client : Bytes) : Bytes :=
  application ++ signature.presence :: (Bytes.ofNat 4 signature.counter.toNat ++ client)

/-- Checks the signature with the registered key, which has to be an uncompressed P-256 point. -/
def verify (signature : Signature) (application client publicKey : Bytes) : Result Unit :=
  if publicKey.length = 65 ∧ publicKey.head? = some 4 then
    verifySignature publicKey (signature.signedData application client) signature.signature
  else .error (.invalidArgument .publicKeyForm)

end Signature

end SecurityKey.U2f
