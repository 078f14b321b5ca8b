import SecurityKey.Bytes

/-!
# The curve P-256

Points of the curve `y² = x³ - 3x + b` over the field of `p` elements, their written form, and key agreement. Points
are multiplied in Jacobian coordinates, where `(x, y, z)` stands for `(x / z², y / z³)` and `z = 0` for the point at
infinity.
-/

namespace SecurityKey.Crypto.P256

/-- The number of elements of the field. -/
def p : Nat := 0xffffffff00000001000000000000000000000000ffffffffffffffffffffffff

/-- The number of points of the curve. -/
def order : Nat := 0xffffffff00000000ffffffffffffffffbce6faada7179e84f3b9cac2fc632551

/-- The constant term of the curve. -/
def b : Nat := 0x5ac635d8aa3a93e7b3ebbd55769886bc651d06b0cc53b0f63bce3c3e27d2604b

/-- A point by its coordinates. -/
structure Point where
  x : Nat
  y : Nat
  deriving DecidableEq

/-- The point whose multiples are all points. -/
def generator : Point where
  x := 0x6b17d1f2e12c4247f8bce6e563a440f277037d812deb33a0f4a13945d898c296
  y := 0x4fe342e2fe1a7f9b8ee7eb4a7c0f9e162bce33576b315ececbb6406837bf51f5

/-- `x - y` modulo `m`, for `y` up to `m`. -/
def sub (m x y : Nat) : Nat :=
  (x + (m - y)) % m

/-- `base ^ exponent` modulo `m`, times the square of `acc` for each of the `bits` low bits of the exponent. -/
def power (m base exponent : Nat) : (bits acc : Nat) → Nat
  | 0, acc => acc
  | bits + 1, acc =>
    let square := acc * acc % m
    power m base exponent bits (if exponent.testBit bits then square * base % m else square)

/-- The inverse of `x` modulo the prime `m` of 256 bits. -/
def inverse (m x : Nat) : Nat :=
  power m (x % m) (m - 2) 256 1

/-- A point in Jacobian coordinates. -/
structure Jacobian where
  x : Nat
  y : Nat
  z : Nat

namespace Jacobian

/-- The point at infinity. -/
def infinity : Jacobian := ⟨1, 1, 0⟩

/-- A point with its coordinates over `z = 1`. -/
def ofPoint (q : Point) : Jacobian := ⟨q.x, q.y, 1⟩

/-- Twice a point. -/
def double (q : Jacobian) : Jacobian :=
  let delta := q.z * q.z % p
  let gamma := q.y * q.y % p
  let beta := q.x * gamma % p
  let alpha := 3 * sub p q.x delta * (q.x + delta) % p
  let x := sub p (alpha * alpha) (8 * beta % p)
  let z := 2 * q.y * q.z % p
  ⟨x, sub p (alpha * sub p (4 * beta) x) (8 * gamma * gamma % p), z⟩

/-- The sum of two points. -/
def add (q r : Jacobian) : Jacobian :=
  if q.z = 0 then r
  else if r.z = 0 then q
  else
    let qzz := q.z * q.z % p
    let rzz := r.z * r.z % p
    let u := q.x * rzz % p
    let s := q.y * r.z % p * rzz % p
    let h := sub p (r.x * qzz) u
    let d := sub p (r.y * q.z % p * qzz) s
    if h = 0 then
      if d = 0 then q.double else infinity
    else
      let hh := h * h % p
      let hhh := h * hh % p
      let v := u * hh % p
      let x := sub p (d * d) ((hhh + 2 * v) % p)
      ⟨x, sub p (d * sub p v x) (s * hhh % p), q.z * r.z % p * h % p⟩

/-- `q` times the number of the `bits` low bits of `k`, with `acc` doubled for each of them. -/
def multiply (q : Jacobian) (k : Nat) : (bits : Nat) → (acc : Jacobian) → Jacobian
  | 0, acc => acc
  | bits + 1, acc =>
    let twice := acc.double
    multiply q k bits (if k.testBit bits then twice.add q else twice)

/-- The coordinates of a point other than the one at infinity. -/
def toPoint? (q : Jacobian) : Option Point :=
  if q.z = 0 then none
  else
    let i := inverse p q.z
    let ii := i * i % p
    some ⟨q.x * ii % p, q.y * ii % p * i % p⟩

end Jacobian

namespace Point

/-- `k` times a point, for `k` below `2 ^ 256`. -/
def multiply (q : Point) (k : Nat) : Jacobian :=
  (Jacobian.ofPoint q).multiply k 256 .infinity

/-- Whether a point is on the curve. -/
def onCurve (q : Point) : Bool :=
  q.x < p && q.y < p && q.y * q.y % p == (q.x * q.x * q.x + (p - 3) * q.x + b) % p

/-- The uncompressed form of a point: 4 and both coordinates, 65 bytes. -/
def toBytes (q : Point) : Bytes :=
  4 :: (Bytes.ofNat 32 q.x ++ Bytes.ofNat 32 q.y)

/-- The point of the curve with the uncompressed form `bytes`. -/
def ofBytes? (bytes : Bytes) : Option Point :=
  match bytes with
  | 4 :: coordinates =>
    let q : Point := ⟨Bytes.toNat (coordinates.take 32), Bytes.toNat (coordinates.drop 32)⟩
    if coordinates.length = 64 ∧ q.onCurve then some q else none
  | _ => none

@[simp] theorem length_toBytes (q : Point) : q.toBytes.length = 65 := by
  simp [toBytes]

end Point

/-- A private key, a number from 1 up to the order of the curve. -/
structure PrivateKey where
  scalar : Nat

namespace PrivateKey

/-- The private key that `seed` selects. -/
def ofSeed (seed : Bytes) : PrivateKey :=
  ⟨Bytes.toNat seed % (order - 1) + 1⟩

/-- The uncompressed form of the public key. -/
def publicKey (key : PrivateKey) : Bytes :=
  (((generator.multiply key.scalar).toPoint?).getD generator).toBytes

/-- The 32 byte secret shared with the owner of the public key `peer`, when that is a point of the curve. -/
def agree? (key : PrivateKey) (peer : Bytes) : Option Bytes := do
  let q ← Point.ofBytes? peer
  let shared ← (q.multiply key.scalar).toPoint?
  return Bytes.ofNat 32 shared.x

end PrivateKey

end SecurityKey.Crypto.P256
