import SecurityKey.Bytes

/-!
# AES-256

The block cipher of FIPS 197 with a key of 32 bytes. A block is four columns of four bytes; each step of a round has
an inverse, and decryption applies the inverses in the opposite order.
-/

namespace SecurityKey.Crypto.Aes

/-- Four bytes, a column of a block or a word of a key. -/
structure Word where
  b0 : UInt8
  b1 : UInt8
  b2 : UInt8
  b3 : UInt8
  deriving DecidableEq

/-- Sixteen bytes, as four columns. -/
structure Block where
  c0 : Word
  c1 : Word
  c2 : Word
  c3 : Word
  deriving DecidableEq

/-- The bytes that replace the bytes 0 to 255. -/
def substitutes : Array UInt8 := #[
  0x63, 0x7c, 0x77, 0x7b, 0xf2, 0x6b, 0x6f, 0xc5, 0x30, 0x01, 0x67, 0x2b, 0xfe, 0xd7, 0xab, 0x76,
  0xca, 0x82, 0xc9, 0x7d, 0xfa, 0x59, 0x47, 0xf0, 0xad, 0xd4, 0xa2, 0xaf, 0x9c, 0xa4, 0x72, 0xc0,
  0xb7, 0xfd, 0x93, 0x26, 0x36, 0x3f, 0xf7, 0xcc, 0x34, 0xa5, 0xe5, 0xf1, 0x71, 0xd8, 0x31, 0x15,
  0x04, 0xc7, 0x23, 0xc3, 0x18, 0x96, 0x05, 0x9a, 0x07, 0x12, 0x80, 0xe2, 0xeb, 0x27, 0xb2, 0x75,
  0x09, 0x83, 0x2c, 0x1a, 0x1b, 0x6e, 0x5a, 0xa0, 0x52, 0x3b, 0xd6, 0xb3, 0x29, 0xe3, 0x2f, 0x84,
  0x53, 0xd1, 0x00, 0xed, 0x20, 0xfc, 0xb1, 0x5b, 0x6a, 0xcb, 0xbe, 0x39, 0x4a, 0x4c, 0x58, 0xcf,
  0xd0, 0xef, 0xaa, 0xfb, 0x43, 0x4d, 0x33, 0x85, 0x45, 0xf9, 0x02, 0x7f, 0x50, 0x3c, 0x9f, 0xa8,
  0x51, 0xa3, 0x40, 0x8f, 0x92, 0x9d, 0x38, 0xf5, 0xbc, 0xb6, 0xda, 0x21, 0x10, 0xff, 0xf3, 0xd2,
  0xcd, 0x0c, 0x13, 0xec, 0x5f, 0x97, 0x44, 0x17, 0xc4, 0xa7, 0x7e, 0x3d, 0x64, 0x5d, 0x19, 0x73,
  0x60, 0x81, 0x4f, 0xdc, 0x22, 0x2a, 0x90, 0x88, 0x46, 0xee, 0xb8, 0x14, 0xde, 0x5e, 0x0b, 0xdb,
  0xe0, 0x32, 0x3a, 0x0a, 0x49, 0x06, 0x24, 0x5c, 0xc2, 0xd3, 0xac, 0x62, 0x91, 0x95, 0xe4, 0x79,
  0xe7, 0xc8, 0x37, 0x6d, 0x8d, 0xd5, 0x4e, 0xa9, 0x6c, 0x56, 0xf4, 0xea, 0x65, 0x7a, 0xae, 0x08,
  0xba, 0x78, 0x25, 0x2e, 0x1c, 0xa6, 0xb4, 0xc6, 0xe8, 0xdd, 0x74, 0x1f, 0x4b, 0xbd, 0x8b, 0x8a,
  0x70, 0x3e, 0xb5, 0x66, 0x48, 0x03, 0xf6, 0x0e, 0x61, 0x35, 0x57, 0xb9, 0x86, 0xc1, 0x1d, 0x9e,
  0xe1, 0xf8, 0x98, 0x11, 0x69, 0xd9, 0x8e, 0x94, 0x9b, 0x1e, 0x87, 0xe9, 0xce, 0x55, 0x28, 0xdf,
  0x8c, 0xa1, 0x89, 0x0d, 0xbf, 0xe6, 0x42, 0x68, 0x41, 0x99, 0x2d, 0x0f, 0xb0, 0x54, 0xbb, 0x16]

/-- The bytes that are replaced by the bytes 0 to 255. -/
def preimages : Array UInt8 := #[
  0x52, 0x09, 0x6a, 0xd5, 0x30, 0x36, 0xa5, 0x38, 0xbf, 0x40, 0xa3, 0x9e, 0x81, 0xf3, 0xd7, 0xfb,
  0x7c, 0xe3, 0x39, 0x82, 0x9b, 0x2f, 0xff, 0x87, 0x34, 0x8e, 0x43, 0x44, 0xc4, 0xde, 0xe9, 0xcb,
  0x54, 0x7b, 0x94, 0x32, 0xa6, 0xc2, 0x23, 0x3d, 0xee, 0x4c, 0x95, 0x0b, 0x42, 0xfa, 0xc3, 0x4e,
  0x08, 0x2e, 0xa1, 0x66, 0x28, 0xd9, 0x24, 0xb2, 0x76, 0x5b, 0xa2, 0x49, 0x6d, 0x8b, 0xd1, 0x25,
  0x72, 0xf8, 0xf6, 0x64, 0x86, 0x68, 0x98, 0x16, 0xd4, 0xa4, 0x5c, 0xcc, 0x5d, 0x65, 0xb6, 0x92,
  0x6c, 0x70, 0x48, 0x50, 0xfd, 0xed, 0xb9, 0xda, 0x5e, 0x15, 0x46, 0x57, 0xa7, 0x8d, 0x9d, 0x84,
  0x90, 0xd8, 0xab, 0x00, 0x8c, 0xbc, 0xd3, 0x0a, 0xf7, 0xe4, 0x58, 0x05, 0xb8, 0xb3, 0x45, 0x06,
  0xd0, 0x2c, 0x1e, 0x8f, 0xca, 0x3f, 0x0f, 0x02, 0xc1, 0xaf, 0xbd, 0x03, 0x01, 0x13, 0x8a, 0x6b,
  0x3a, 0x91, 0x11, 0x41, 0x4f, 0x67, 0xdc, 0xea, 0x97, 0xf2, 0xcf, 0xce, 0xf0, 0xb4, 0xe6, 0x73,
  0x96, 0xac, 0x74, 0x22, 0xe7, 0xad, 0x35, 0x85, 0xe2, 0xf9, 0x37, 0xe8, 0x1c, 0x75, 0xdf, 0x6e,
  0x47, 0xf1, 0x1a, 0x71, 0x1d, 0x29, 0xc5, 0x89, 0x6f, 0xb7, 0x62, 0x0e, 0xaa, 0x18, 0xbe, 0x1b,
  0xfc, 0x56, 0x3e, 0x4b, 0xc6, 0xd2, 0x79, 0x20, 0x9a, 0xdb, 0xc0, 0xfe, 0x78, 0xcd, 0x5a, 0xf4,
  0x1f, 0xdd, 0xa8, 0x33, 0x88, 0x07, 0xc7, 0x31, 0xb1, 0x12, 0x10, 0x59, 0x27, 0x80, 0xec, 0x5f,
  0x60, 0x51, 0x7f, 0xa9, 0x19, 0xb5, 0x4a, 0x0d, 0x2d, 0xe5, 0x7a, 0x9f, 0x93, 0xc9, 0x9c, 0xef,
  0xa0, 0xe0, 0x3b, 0x4d, 0xae, 0x2a, 0xf5, 0xb0, 0xc8, 0xeb, 0xbb, 0x3c, 0x83, 0x53, 0x99, 0x61,
  0x17, 0x2b, 0x04, 0x7e, 0xba, 0x77, 0xd6, 0x26, 0xe1, 0x69, 0x14, 0x63, 0x55, 0x21, 0x0c, 0x7d]

/-- The byte that replaces `b`. -/
def substitute (b : UInt8) : UInt8 :=
  substitutes.getD b.toNat 0

/-- The byte that `b` replaces. -/
def preimage (b : UInt8) : UInt8 :=
  preimages.getD b.toNat 0

/-- Twice `b` in the field of 256 elements. -/
def double (b : UInt8) : UInt8 :=
  if b < 0x80 then b <<< 1 else (b <<< 1) ^^^ 0x1b

namespace Word

/-- The bytewise exclusive or of two words. -/
def xor (v w : Word) : Word :=
  ⟨v.b0 ^^^ w.b0, v.b1 ^^^ w.b1, v.b2 ^^^ w.b2, v.b3 ^^^ w.b3⟩

/-- A function applied to each byte of a word. -/
def map (f : UInt8 → UInt8) (w : Word) : Word :=
  ⟨f w.b0, f w.b1, f w.b2, f w.b3⟩

/-- A word with its bytes moved up by one place. -/
def rotate (w : Word) : Word :=
  ⟨w.b1, w.b2, w.b3, w.b0⟩

/-- A column multiplied by `{03}x³ + {01}x² + {01}x + {02}`. -/
def mix (w : Word) : Word :=
  let twice := w.map double
  ⟨twice.b0 ^^^ twice.b1 ^^^ w.b1 ^^^ w.b2 ^^^ w.b3, twice.b1 ^^^ twice.b2 ^^^ w.b2 ^^^ w.b3 ^^^ w.b0,
    twice.b2 ^^^ twice.b3 ^^^ w.b3 ^^^ w.b0 ^^^ w.b1, twice.b3 ^^^ twice.b0 ^^^ w.b0 ^^^ w.b1 ^^^ w.b2⟩

/-- A column multiplied by `{04}x² + {05}`, which is the square of the polynomial of `mix`. -/
def mixSquare (w : Word) : Word :=
  let four := w.map fun b => double (double b)
  ⟨four.b0 ^^^ four.b2 ^^^ w.b0, four.b1 ^^^ four.b3 ^^^ w.b1, four.b2 ^^^ four.b0 ^^^ w.b2,
    four.b3 ^^^ four.b1 ^^^ w.b3⟩

/-- The column that `mix` sends to `w`: the third power of `mix` is its inverse. -/
def unmix (w : Word) : Word :=
  w.mixSquare.mix

end Word

namespace Block

/-- The bytewise exclusive or of two blocks. -/
def xor (a b : Block) : Block :=
  ⟨a.c0.xor b.c0, a.c1.xor b.c1, a.c2.xor b.c2, a.c3.xor b.c3⟩

/-- A function applied to each column of a block. -/
def mapColumns (f : Word → Word) (a : Block) : Block :=
  ⟨f a.c0, f a.c1, f a.c2, f a.c3⟩

/-- Row `i` of a block moved left by `i` columns. -/
def shiftRows (a : Block) : Block :=
  ⟨⟨a.c0.b0, a.c1.b1, a.c2.b2, a.c3.b3⟩, ⟨a.c1.b0, a.c2.b1, a.c3.b2, a.c0.b3⟩,
    ⟨a.c2.b0, a.c3.b1, a.c0.b2, a.c1.b3⟩, ⟨a.c3.b0, a.c0.b1, a.c1.b2, a.c2.b3⟩⟩

/-- Row `i` of a block moved right by `i` columns. -/
def unshiftRows (a : Block) : Block :=
  ⟨⟨a.c0.b0, a.c3.b1, a.c2.b2, a.c1.b3⟩, ⟨a.c1.b0, a.c0.b1, a.c3.b2, a.c2.b3⟩,
    ⟨a.c2.b0, a.c1.b1, a.c0.b2, a.c3.b3⟩, ⟨a.c3.b0, a.c2.b1, a.c1.b2, a.c0.b3⟩⟩

/-- The block of the first sixteen bytes; missing ones are zero. -/
def ofBytes (bytes : Bytes) : Block :=
  let b (i : Nat) := bytes.getD i 0
  ⟨⟨b 0, b 1, b 2, b 3⟩, ⟨b 4, b 5, b 6, b 7⟩, ⟨b 8, b 9, b 10, b 11⟩, ⟨b 12, b 13, b 14, b 15⟩⟩

/-- The bytes of a block. -/
def toBytes (a : Block) : Bytes :=
  [a.c0, a.c1, a.c2, a.c3].flatMap fun w => [w.b0, w.b1, w.b2, w.b3]

@[simp] theorem length_toBytes (a : Block) : a.toBytes.length = 16 := rfl

end Block

/-- The two round keys after `low` and `high`, where `constant` is that of their step. -/
def nextKeys (constant : UInt8) (low high : Block) : Block × Block :=
  let w0 := low.c0.xor ((high.c3.rotate.map substitute).xor ⟨constant, 0, 0, 0⟩)
  let w1 := low.c1.xor w0
  let w2 := low.c2.xor w1
  let w3 := low.c3.xor w2
  let w4 := high.c0.xor (w3.map substitute)
  let w5 := high.c1.xor w4
  let w6 := high.c2.xor w5
  let w7 := high.c3.xor w6
  (⟨w0, w1, w2, w3⟩, ⟨w4, w5, w6, w7⟩)

/-- The round keys from `low` and `high` on. -/
def expand : (constants : List UInt8) → (low high : Block) → List Block
  | [], low, high => [low, high]
  | constant :: constants, low, high =>
    let next := nextKeys constant low high
    low :: high :: expand constants next.1 next.2

/-- The keys of the fifteen rounds: the first, the next thirteen and the last. -/
structure Schedule where
  first : Block
  middle : List Block
  last : Block

/-- The round keys of a 32 byte key. -/
def Schedule.ofKey (key : Bytes) : Schedule :=
  let keys := expand [0x01, 0x02, 0x04, 0x08, 0x10, 0x20, 0x40] (.ofBytes key) (.ofBytes (key.drop 16))
  let zero := Block.ofBytes []
  ⟨keys.headD zero, (keys.drop 1).take 13, (keys.drop 14).headD zero⟩

/-- A round but the last. -/
def round (state key : Block) : Block :=
  (((state.mapColumns (·.map substitute)).shiftRows).mapColumns Word.mix).xor key

/-- The state before a round but the last. -/
def unround (state key : Block) : Block :=
  (((state.xor key).mapColumns Word.unmix).unshiftRows).mapColumns (·.map preimage)

/-- The encrypted block. -/
def Schedule.encrypt (keys : Schedule) (block : Block) : Block :=
  let state := keys.middle.foldl round (block.xor keys.first)
  ((state.mapColumns (·.map substitute)).shiftRows).xor keys.last

/-- The block that is encrypted to `block`. -/
def Schedule.decrypt (keys : Schedule) (block : Block) : Block :=
  let state := ((block.xor keys.last).unshiftRows).mapColumns (·.map preimage)
  (keys.middle.reverse.foldl unround state).xor keys.first

end SecurityKey.Crypto.Aes
