import SecurityKey.Bytes

/-!
# CBOR values

A value is what a CBOR item stands for: the order of map entries and repeated keys are part of it, the widths of
lengths and integers are not.
-/

namespace SecurityKey.Cbor

/-- A CBOR value. `unsigned n` is `n` and `negative n` is `-1 - n`; a float is given by the bits of its
double precision form. -/
inductive Value where
  | unsigned (n : UInt64)
  | negative (n : UInt64)
  | bytes (content : Bytes)
  | text (content : String)
  | array (items : List Value)
  | map (entries : List (Value × Value))
  | tag (number : UInt64) (content : Value)
  | bool (b : Bool)
  | null
  | float (bits : UInt64)
  deriving Inhabited

namespace Value

/-- The integer a value stands for. -/
def int? : Value → Option Int
  | unsigned n => some n.toNat
  | negative n => some (-1 - n.toNat)
  | _ => none

/-- The unsigned 64-bit integer a value stands for. -/
def unsigned? : Value → Option UInt64
  | unsigned n => some n
  | _ => none

/-- The signed 64-bit integer a value stands for. -/
def signed? : Value → Option Int64
  | unsigned n => if n < 0x8000000000000000 then some (.ofNat n.toNat) else none
  | negative n => if n < 0x8000000000000000 then some (.ofInt (-1 - n.toNat)) else none
  | _ => none

/-- The content of a byte string. -/
def bytes? : Value → Option Bytes
  | bytes content => some content
  | _ => none

/-- The content of a text string. -/
def text? : Value → Option String
  | text content => some content
  | _ => none

/-- The boolean a value stands for. -/
def bool? : Value → Option Bool
  | bool b => some b
  | _ => none

/-- The items of an array. -/
def array? : Value → Option (List Value)
  | array items => some items
  | _ => none

/-- The entries of a map. -/
def map? : Value → Option (List (Value × Value))
  | map entries => some entries
  | _ => none

/-- A byte as a value. -/
def ofByte (b : UInt8) : Value :=
  unsigned b.toUInt64

/-- An integer as a value. -/
def ofInt64 (n : Int64) : Value :=
  if 0 ≤ n.toInt then unsigned (.ofNat n.toInt.toNat) else negative (.ofNat (-1 - n.toInt).toNat)

end Value

end SecurityKey.Cbor
