import SecurityKey.Crypto.Der
import SecurityKey.Crypto.P256
import SecurityKey.Crypto.Sha256

/-!
# ECDSA signatures

Signatures over P-256 and SHA-256. A signature is a DER sequence of two positive integers below the order of the
curve.
-/

namespace SecurityKey.Crypto.Ecdsa

open P256

/-- The two numbers of a signature. -/
def numbers? (signature : Bytes) : Option (Nat × Nat) := do
  let (contents, trailing) ← Der.short? Der.sequence signature
  let (first, rest) ← Der.short? Der.integer contents
  let (second, rest) ← Der.short? Der.integer rest
  let r ← Der.positive? first
  let s ← Der.positive? second
  if trailing = [] ∧ rest = [] ∧ r < order ∧ s < order then return (r, s) else none

/-- Whether `signature` signs `message` under the public key with the uncompressed form `publicKey`. -/
def verify (publicKey message signature : Bytes) : Bool :=
  match Point.ofBytes? publicKey, numbers? signature with
  | some q, some (r, s) =>
    let w := inverse order s
    let u := Bytes.toNat (sha256 message) * w % order
    let v := r * w % order
    match ((generator.multiply u).add (q.multiply v)).toPoint? with
    | some point => point.x % order == r
    | none => false
  | _, _ => false

end SecurityKey.Crypto.Ecdsa
