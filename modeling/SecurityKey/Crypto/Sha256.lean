import SecurityKey.Bytes

/-!
# SHA-256

The hash function of FIPS 180-4: a padded message is cut into blocks, each of which is mixed into eight words.
-/

namespace SecurityKey.Crypto.Sha256

/-- The words that are carried from block to block. -/
structure State where
  a : UInt32
  b : UInt32
  c : UInt32
  d : UInt32
  e : UInt32
  f : UInt32
  g : UInt32
  h : UInt32

/-- The words before the first block. -/
def initial : State :=
  ⟨0x6a09e667, 0xbb67ae85, 0x3c6ef372, 0xa54ff53a, 0x510e527f, 0x9b05688c, 0x1f83d9ab, 0x5be0cd19⟩

/-- One word for each round. -/
def constants : List UInt32 := [
  0x428a2f98, 0x71374491, 0xb5c0fbcf, 0xe9b5dba5, 0x3956c25b, 0x59f111f1, 0x923f82a4, 0xab1c5ed5,
  0xd807aa98, 0x12835b01, 0x243185be, 0x550c7dc3, 0x72be5d74, 0x80deb1fe, 0x9bdc06a7, 0xc19bf174,
  0xe49b69c1, 0xefbe4786, 0x0fc19dc6, 0x240ca1cc, 0x2de92c6f, 0x4a7484aa, 0x5cb0a9dc, 0x76f988da,
  0x983e5152, 0xa831c66d, 0xb00327c8, 0xbf597fc7, 0xc6e00bf3, 0xd5a79147, 0x06ca6351, 0x14292967,
  0x27b70a85, 0x2e1b2138, 0x4d2c6dfc, 0x53380d13, 0x650a7354, 0x766a0abb, 0x81c2c92e, 0x92722c85,
  0xa2bfe8a1, 0xa81a664b, 0xc24b8b70, 0xc76c51a3, 0xd192e819, 0xd6990624, 0xf40e3585, 0x106aa070,
  0x19a4c116, 0x1e376c08, 0x2748774c, 0x34b0bcb5, 0x391c0cb3, 0x4ed8aa4a, 0x5b9cca4f, 0x682e6ff3,
  0x748f82ee, 0x78a5636f, 0x84c87814, 0x8cc70208, 0x90befffa, 0xa4506ceb, 0xbef9a3f7, 0xc67178f2]

/-- `x` rotated right by `n` bits. -/
def rotate (x n : UInt32) : UInt32 :=
  (x >>> n) ||| (x <<< (32 - n))

/-- The word that enters the schedule when `window` holds the sixteen words before it. -/
def nextWord : (window : List UInt32) → UInt32
  | w0 :: w1 :: _ :: _ :: _ :: _ :: _ :: _ :: _ :: w9 :: _ :: _ :: _ :: _ :: w14 :: _ =>
    w0 + (rotate w1 7 ^^^ rotate w1 18 ^^^ (w1 >>> 3)) + w9 + (rotate w14 17 ^^^ rotate w14 19 ^^^ (w14 >>> 10))
  | _ => 0

/-- One round with the constant `k` and the schedule word `w`. -/
def round (s : State) (k w : UInt32) : State :=
  let choice := (s.e &&& s.f) ^^^ (~~~s.e &&& s.g)
  let majority := (s.a &&& s.b) ^^^ (s.a &&& s.c) ^^^ (s.b &&& s.c)
  let t1 := s.h + (rotate s.e 6 ^^^ rotate s.e 11 ^^^ rotate s.e 25) + choice + k + w
  let t2 := (rotate s.a 2 ^^^ rotate s.a 13 ^^^ rotate s.a 22) + majority
  ⟨t1 + t2, s.a, s.b, s.c, s.d + t1, s.e, s.f, s.g⟩

/-- The rounds with the given constants, where `window` holds the next sixteen schedule words. -/
def rounds : (constants window : List UInt32) → State → State
  | [], _, s => s
  | k :: constants, window, s => rounds constants (window.drop 1 ++ [nextWord window]) (round s k (window.headD 0))

/-- Mixes a block of 64 bytes into the state. -/
def compress (s : State) (block : Bytes) : State :=
  let window := (block.chunks 4).map fun word => UInt32.ofNat (Bytes.toNat word)
  let t := rounds constants window s
  ⟨s.a + t.a, s.b + t.b, s.c + t.c, s.d + t.d, s.e + t.e, s.f + t.f, s.g + t.g, s.h + t.h⟩

/-- The message with a mark after it, zeros up to a whole block, and its length in bits at the end. -/
def pad (message : Bytes) : Bytes :=
  let zeros := (119 - message.length % 64) % 64
  message ++ (0x80 :: (List.replicate zeros 0 ++ Bytes.ofNat 8 (8 * message.length)))

/-- The words of a state as bytes. -/
def State.toBytes (s : State) : Bytes :=
  [s.a, s.b, s.c, s.d, s.e, s.f, s.g, s.h].flatMap fun word => Bytes.ofNat 4 word.toNat

@[simp] theorem State.length_toBytes (s : State) : s.toBytes.length = 32 := by
  simp [State.toBytes]

end SecurityKey.Crypto.Sha256

namespace SecurityKey.Crypto

/-- The SHA-256 hash of a message, 32 bytes. -/
def sha256 (message : Bytes) : Bytes :=
  (((Sha256.pad message).chunks 64).foldl Sha256.compress Sha256.initial).toBytes

@[simp] theorem length_sha256 (message : Bytes) : (sha256 message).length = 32 := by
  simp [sha256]

end SecurityKey.Crypto
