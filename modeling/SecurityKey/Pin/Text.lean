import SecurityKey.Crypto.Sha256
import SecurityKey.Failure

/-!
# PINs

A PIN is a text of at least four characters and at most 63 bytes. It is sent with zeros up to 64 bytes, and proved by
the first half of its hash.
-/

namespace SecurityKey.Pin

/-- The bytes of an acceptable PIN. -/
def prepare (pin : String) : Result Bytes :=
  if pin.length < 4 then .error (.invalidPin .tooShort)
  else if 63 < (Bytes.ofText pin).length then .error (.invalidPin .tooLong)
  else .ok (Bytes.ofText pin)

/-- The bytes of an acceptable PIN with zeros up to 64 bytes. -/
def preparePadded (pin : String) : Result Bytes := do
  let bytes ← prepare pin
  return bytes ++ List.replicate (64 - bytes.length) 0

/-- The first 16 bytes of the hash of an acceptable PIN. -/
def hash (pin : String) : Result Bytes := do
  return (Crypto.sha256 (← prepare pin)).take 16

end SecurityKey.Pin
