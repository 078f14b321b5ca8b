/-!
# Shortest decimals

A float stands for all numbers that are rounded to it. Its shortest decimal is the number on the coarsest decimal
grid among them; of two on that grid the nearer one is taken, and the greater one when they are equally near.
-/

namespace SecurityKey.Decimal

/-- The numbers that are rounded to a positive float: from `low` to `high`, in units of `2 ^ exponent`, with their
ends when `closed`. The float itself is `value`. -/
structure Neighbourhood where
  low : Nat
  value : Nat
  high : Nat
  exponent : Int
  closed : Bool

namespace Neighbourhood

/-- The neighbourhood of the positive finite double with the exponent bits `e` and the fraction bits `m`. -/
def ofFields (e m : Nat) : Neighbourhood :=
  let significand := if e = 0 then m else 0x10000000000000 + m
  { low := 4 * significand - if e ≠ 0 ∧ m = 0 then 1 else 2
    value := 4 * significand
    high := 4 * significand + 2
    exponent := (max e 1 : Nat) - 1077
    closed := significand % 2 == 0 }

/-- `n` units as a multiple of `10 ^ k / scale`, where the scale is `Neighbourhood.scale`. -/
def scaled (x : Neighbourhood) (k : Int) (n : Nat) : Nat :=
  (n <<< x.exponent.toNat) * Nat.pow 10 (-k).toNat

/-- What `10 ^ k` is scaled by to compare it with units in whole numbers. -/
def scale (x : Neighbourhood) (k : Int) : Nat :=
  (1 <<< (-x.exponent).toNat) * Nat.pow 10 k.toNat

/-- Whether `d * 10 ^ k` is rounded to the float. -/
def contains (x : Neighbourhood) (k : Int) (d : Nat) : Bool :=
  let n := d * x.scale k
  if x.closed then x.scaled k x.low ≤ n && n ≤ x.scaled k x.high
  else x.scaled k x.low < n && n < x.scaled k x.high

/-- The multiple of `10 ^ k` that is rounded to the float and nearest to it. -/
def onGrid? (x : Neighbourhood) (k : Int) : Option Nat :=
  let below := x.scaled k x.value / x.scale k
  let rest := x.scaled k x.value % x.scale k
  if x.contains k below && (!x.contains k (below + 1) || 2 * rest < x.scale k) then some below
  else if x.contains k (below + 1) then some (below + 1)
  else none

/-- The digits and the exponent of the shortest decimal on the grids from `10 ^ k` down, `fuel` grids at most. -/
def search (x : Neighbourhood) (k : Int) : (fuel : Nat) → Nat × Int
  | 0 => (0, 0)
  | fuel + 1 =>
    match x.onGrid? k with
    | some d => (d, k)
    | none => x.search (k - 1) fuel

/-- The digits and the exponent of the shortest decimal. Every double is below `10 ^ 309` and is hit on the grid
of `10 ^ -1100` at the latest. -/
def shortest (x : Neighbourhood) : Nat × Int :=
  x.search 309 1410

end Neighbourhood

end SecurityKey.Decimal
