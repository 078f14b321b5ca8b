import SecurityKey.Crypto.Aes

/-!
# Cipher block chaining

AES-256 over whole blocks: each block is combined with the encrypted one before it, the first with an initialization
vector.
-/

namespace SecurityKey.Crypto.Cbc

open Aes

/-- The encrypted blocks, where `previous` comes before the first. -/
def encryptBlocks (keys : Schedule) : (previous : Block) → List Block → List Block
  | _, [] => []
  | previous, block :: blocks =>
    let encrypted := keys.encrypt (block.xor previous)
    encrypted :: encryptBlocks keys encrypted blocks

/-- The decrypted blocks, where `previous` comes before the first encrypted one. -/
def decryptBlocks (keys : Schedule) : (previous : Block) → List Block → List Block
  | _, [] => []
  | previous, block :: blocks => (keys.decrypt block).xor previous :: decryptBlocks keys block blocks

/-- The blocks of a byte string. -/
def blocks (bytes : Bytes) : List Block :=
  (bytes.chunks 16).map .ofBytes

/-- `data`, of a whole number of blocks, encrypted. -/
def encrypt (key iv data : Bytes) : Bytes :=
  (encryptBlocks (.ofKey key) (.ofBytes iv) (blocks data)).flatMap Block.toBytes

/-- `data`, of a whole number of blocks, decrypted. -/
def decrypt (key iv data : Bytes) : Bytes :=
  (decryptBlocks (.ofKey key) (.ofBytes iv) (blocks data)).flatMap Block.toBytes

end SecurityKey.Crypto.Cbc
