import SecurityKey.Cbor.FloatWidth
import SecurityKey.Cbor.Value

/-!
# Writing CBOR

Every value has one written form here: definite lengths, the shortest heads, and the narrowest width that holds a
float. Map entries are written in the order they have.
-/

namespace SecurityKey.Cbor

/-- The first bytes of an item: its major type and the shortest form of its argument. -/
def head (major argument : Nat) : Bytes :=
  let initial (information : Nat) := UInt8.ofNat (32 * major + information)
  if argument < 24 then [initial argument]
  else if argument < 0x100 then initial 24 :: Bytes.ofNat 1 argument
  else if argument < 0x10000 then initial 25 :: Bytes.ofNat 2 argument
  else if argument < 0x100000000 then initial 26 :: Bytes.ofNat 4 argument
  else initial 27 :: Bytes.ofNat 8 argument

/-- A float in the narrowest width that holds it exactly. -/
def writeFloat (bits : UInt64) : Bytes :=
  match FloatWidth.half.narrow? bits.toNat with
  | some narrow => 0xf9 :: Bytes.ofNat 2 narrow
  | none =>
    match FloatWidth.single.narrow? bits.toNat with
    | some narrow => 0xfa :: Bytes.ofNat 4 narrow
    | none => 0xfb :: Bytes.ofNat 8 bits.toNat

mutual

/-- The written form of a value. -/
def Value.write : Value → Bytes
  | .unsigned n => head 0 n.toNat
  | .negative n => head 1 n.toNat
  | .bytes content => head 2 content.length ++ content
  | .text content => head 3 (Bytes.ofText content).length ++ Bytes.ofText content
  | .array items => head 4 items.length ++ writeItems items
  | .map entries => head 5 entries.length ++ writeEntries entries
  | .tag number content => head 6 number.toNat ++ content.write
  | .bool b => [if b then 0xf5 else 0xf4]
  | .null => [0xf6]
  | .float bits => writeFloat bits

/-- The written forms of the items of an array, one after another. -/
def writeItems : List Value → Bytes
  | [] => []
  | item :: items => item.write ++ writeItems items

/-- The written forms of the keys and values of a map, one after another. -/
def writeEntries : List (Value × Value) → Bytes
  | [] => []
  | (key, value) :: entries => key.write ++ (value.write ++ writeEntries entries)

end

end SecurityKey.Cbor
