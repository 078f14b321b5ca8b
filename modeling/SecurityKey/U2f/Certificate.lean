import SecurityKey.Crypto.Der

/-!
# Attestation certificates

Where the public key is in an X.509 certificate. Nothing else in a certificate is looked at.
-/

namespace SecurityKey.U2f

open Crypto

/-- The tag of the version of a certificate. -/
def explicitVersion : UInt8 := 0xA0

/-- What follows the first `count` elements. -/
def skipElements : (count : Nat) → Bytes → Option Bytes
  | 0, bytes => some bytes
  | count + 1, bytes => do
    let (_, rest) ← Der.element? bytes
    skipElements count rest

/-- What follows the version, if there is one. -/
def skipVersion (fields : Bytes) : Option Bytes := do
  let (first, rest) ← Der.element? fields
  return if first.tag = explicitVersion then rest else fields

/-- The bits of the public key in a certificate, a whole number of bytes: the key is behind the serial number, the
signature's algorithm, the issuer, the validity and the subject. -/
def certificateKey? (certificate : Bytes) : Option Bytes := do
  let (contents, _) ← Der.tagged? Der.sequence certificate
  let (fields, _) ← Der.tagged? Der.sequence contents
  let fields ← skipElements 5 (← skipVersion fields)
  let (keyInfo, _) ← Der.tagged? Der.sequence fields
  let (bits, _) ← Der.tagged? Der.bitString (← skipElements 1 keyInfo)
  match bits with
  | 0 :: key => return key
  | _ => none

end SecurityKey.U2f
