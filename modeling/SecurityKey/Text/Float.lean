import SecurityKey.Decimal.Shortest

/-!
# Floats in messages

A double is written with its shortest decimal: positionally from `10 ^ -4` up to `10 ^ 16`, with at least one digit
after the point, and otherwise with an exponent.
-/

namespace SecurityKey.Text

/-- Digits with a point after the first `n` of them, and at least one digit on each side. -/
def pointed (digits : List Char) (n : Int) : List Char :=
  let whole := if n ≤ 0 then ['0'] else digits.take n.toNat ++ List.replicate (n.toNat - digits.length) '0'
  let fraction := List.replicate (-n).toNat '0' ++ digits.drop n.toNat
  whole ++ '.' :: if fraction.isEmpty then ['0'] else fraction

/-- Digits with a point after the first one, when there are more, and an exponent. -/
def scientific (digits : List Char) (exponent : Int) : List Char :=
  let fraction := digits.drop 1
  digits.take 1 ++ (if fraction.isEmpty then [] else '.' :: fraction) ++ 'e' :: (toString exponent).toList

/-- The text of a positive finite double. -/
def positiveFloat (e m : Nat) : List Char :=
  let (d, k) := (Decimal.Neighbourhood.ofFields e m).shortest
  let digits := Nat.toDigits 10 d
  let exponent := k + digits.length - 1
  if -5 < exponent ∧ exponent < 16 then pointed digits (exponent + 1) else scientific digits exponent

/-- The text of the double with the bits `bits`. -/
def float (bits : UInt64) : String :=
  let n := bits.toNat
  let e := (n >>> 52) % 2048
  let m := n % 0x10000000000000
  let magnitude :=
    if e = 2047 then "inf".toList
    else if e = 0 ∧ m = 0 then "0.0".toList
    else positiveFloat e m
  if e = 2047 ∧ m ≠ 0 then "NaN"
  else String.ofList (if n >>> 63 = 0 then magnitude else '-' :: magnitude)

end SecurityKey.Text
