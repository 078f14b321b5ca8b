import SecurityKey.Bytes

/-!
# DER elements

An element is a tag byte, a length and the contents. A length below 128 is one byte; else one byte gives the number of
bytes that the length takes, here up to four.
-/

namespace SecurityKey.Crypto.Der

/-- A tag with the contents that follow it. -/
structure Element where
  tag : UInt8
  contents : Bytes
  deriving DecidableEq

/-- The tag of a sequence. -/
def sequence : UInt8 := 0x30

/-- The tag of an integer. -/
def integer : UInt8 := 0x02

/-- The tag of a bit string. -/
def bitString : UInt8 := 0x03

/-- A length and what follows it. -/
def length? : Bytes → Option (Nat × Bytes)
  | [] => none
  | first :: rest =>
    if first < 0x80 then some (first.toNat, rest)
    else do
      let count := first.toNat - 0x80
      if count = 0 ∨ 4 < count then none
      let (number, rest) ← Bytes.splitAt? count rest
      return (Bytes.toNat number, rest)

/-- The element at the start of a byte string and what follows it. -/
def element? : Bytes → Option (Element × Bytes)
  | [] => none
  | tag :: rest => do
    let (length, rest) ← length? rest
    let (contents, rest) ← Bytes.splitAt? length rest
    return (⟨tag, contents⟩, rest)

/-- The contents of the element at the start of a byte string, when it has the tag `tag`, and what follows it. -/
def tagged? (tag : UInt8) (bytes : Bytes) : Option (Bytes × Bytes) := do
  let (element, rest) ← element? bytes
  if element.tag = tag then return (element.contents, rest) else none

/-- The contents of the element at the start of a byte string, when it has the tag `tag` and a length of one byte. -/
def short? (tag : UInt8) : Bytes → Option (Bytes × Bytes)
  | t :: length :: rest => if t = tag ∧ length < 0x80 then Bytes.splitAt? length.toNat rest else none
  | _ => none

/-- The positive number written in the contents of an integer, without needless zeros in front. -/
def positive? : Bytes → Option Nat
  | [] => none
  | [b] => if b = 0 ∨ 0x80 ≤ b then none else some b.toNat
  | b :: c :: rest =>
    if 0x80 ≤ b ∨ (b = 0 ∧ c < 0x80) then none else some (Bytes.toNat (b :: c :: rest))

end SecurityKey.Crypto.Der
