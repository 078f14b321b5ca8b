import SecurityKey.Crypto.Failure
import SecurityKey.Crypto.Sha256

/-!
# HMAC and HKDF over SHA-256

Message authentication (RFC 2104) and key derivation (RFC 5869).
-/

namespace SecurityKey.Crypto

/-- The HMAC key of one hash block: a key of more than 64 bytes is hashed first. -/
def hmacBlock (key : Bytes) : Bytes :=
  let short := if 64 < key.length then sha256 key else key
  short ++ List.replicate (64 - short.length) 0

/-- The 32 byte authentication code of a message. -/
def hmac (key message : Bytes) : Bytes :=
  let block := hmacBlock key
  sha256 (block.map (· ^^^ 0x5c) ++ sha256 (block.map (· ^^^ 0x36) ++ message))

@[simp] theorem length_hmac (key message : Bytes) : (hmac key message).length = 32 := by
  simp [hmac]

/-- The output blocks of key derivation numbered from `counter` on, each made from the one before it. -/
def hkdfBlocks (key info previous : Bytes) (counter : Nat) : (count : Nat) → Bytes
  | 0 => []
  | count + 1 =>
    let block := hmac key (previous ++ info ++ [UInt8.ofNat counter])
    block ++ hkdfBlocks key info block (counter + 1) count

/-- `length` bytes derived from `secret`, for a length of at most 255 blocks. -/
def hkdfBytes (salt secret info : Bytes) (length : Nat) : Bytes :=
  (hkdfBlocks (hmac salt secret) info [] 1 ((length + 31) / 32)).take length

/-- `length` bytes derived from `secret`; there are at most 255 blocks of them. -/
def hkdf (salt secret info : Bytes) (length : Nat) : Except Failure Bytes :=
  if 255 * 32 < length then .error .unspecified else .ok (hkdfBytes salt secret info length)

end SecurityKey.Crypto
