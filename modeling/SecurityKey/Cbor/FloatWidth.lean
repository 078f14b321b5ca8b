/-!
# Widths of floats

CBOR writes a float in half, single or double precision. Values hold double precision bits; here are the way from
a narrower width to double precision, and back for the floats that a narrower width holds exactly.
-/

namespace SecurityKey.Cbor

/-- A binary interchange format narrower than double precision, by the numbers of its exponent and fraction
bits. -/
structure FloatWidth where
  exponent : Nat
  fraction : Nat

namespace FloatWidth

/-- Half precision. -/
def half : FloatWidth := ⟨5, 10⟩

/-- Single precision. -/
def single : FloatWidth := ⟨8, 23⟩

/-- What is added to an exponent to store it. -/
def bias (w : FloatWidth) : Nat :=
  (1 <<< (w.exponent - 1)) - 1

/-- The exponent bits of infinities and NaNs. -/
def top (w : FloatWidth) : Nat :=
  (1 <<< w.exponent) - 1

/-- The double precision bits of the float with the bits `bits`. A signalling NaN becomes quiet. -/
def widen (w : FloatWidth) (bits : Nat) : Nat :=
  let sign := (bits >>> (w.exponent + w.fraction)) % 2
  let e := (bits >>> w.fraction) % (1 <<< w.exponent)
  let m := bits % (1 <<< w.fraction)
  let scaled := m <<< (52 - w.fraction)
  let magnitude :=
    if e = w.top then
      if m = 0 then 2047 <<< 52 else (2047 <<< 52) + (scaled ||| (1 <<< 51))
    else if e ≠ 0 then
      ((e + 1023 - w.bias) <<< 52) + scaled
    else if m = 0 then
      0
    else
      ((m.log2 + 1024 - w.bias - w.fraction) <<< 52) + ((m - (1 <<< m.log2)) <<< (52 - m.log2))
  (sign <<< 63) + magnitude

/-- The bits with the sign, exponent and leading fraction bits of the double precision bits `bits`. -/
def truncate (w : FloatWidth) (bits : Nat) : Nat :=
  let sign := (bits >>> 63) % 2
  let e := (bits >>> 52) % 2048
  let m := bits % (1 <<< 52)
  let magnitude :=
    if e = 2047 then
      (w.top <<< w.fraction) + (m >>> (52 - w.fraction))
    else if 1023 < e + w.bias then
      ((e + w.bias - 1023) <<< w.fraction) + (m >>> (52 - w.fraction))
    else
      ((1 <<< 52) + m) >>> (53 - w.fraction + (1023 - w.bias - e))
  (sign <<< (w.exponent + w.fraction)) + magnitude

/-- The bits of a double precision float in this width, when the width holds it exactly. -/
def narrow? (w : FloatWidth) (bits : Nat) : Option Nat :=
  if w.widen (w.truncate bits) = bits then some (w.truncate bits) else none

theorem widen_of_narrow? {w : FloatWidth} {bits narrow : Nat} (h : w.narrow? bits = some narrow) :
    w.widen narrow = bits := by
  simp only [narrow?] at h
  split at h
  · cases h; assumption
  · cases h

end FloatWidth

end SecurityKey.Cbor
