import SecurityKey.Cbor.Description

/-!
# Sets of named bits

A byte whose bits stand for the members of a type. Bits without a name are kept as they are.
-/

namespace SecurityKey

/-- Names for bits of a byte. -/
class NamedBits (φ : Type) where
  /-- The members, from the lowest bit up. -/
  members : List φ
  /-- The bit of a member. -/
  mask : φ → UInt8
  /-- The name of a member in a description. -/
  name : φ → String
  /-- The name of the set in a description. -/
  title : String

/-- A byte of named bits. -/
structure BitSet (φ : Type) where
  byte : UInt8
  deriving DecidableEq

namespace BitSet

/-- The set without members. -/
def empty {φ : Type} : BitSet φ := ⟨0⟩

variable {φ : Type} [NamedBits φ]

/-- Whether a member is in the set. -/
def has (set : BitSet φ) (member : φ) : Bool :=
  set.byte &&& NamedBits.mask member != 0

/-- The set with a member put in or taken out. -/
def set (set : BitSet φ) (member : φ) (on : Bool) : BitSet φ :=
  ⟨if on then set.byte ||| NamedBits.mask member else set.byte &&& ~~~NamedBits.mask member⟩

/-- The members of the set. -/
def toList (set : BitSet φ) : List φ :=
  NamedBits.members.filter set.has

/-- The set with the given members and no other bits. -/
def ofList (members : List φ) : BitSet φ :=
  members.foldl (fun set member => set.set member true) empty

/-- A text with every named bit. -/
def describe (set : BitSet φ) : String :=
  let fields := NamedBits.members.map fun member : φ => NamedBits.name member ++ ": " ++ toString (set.has member)
  NamedBits.title φ ++ " \x7b " ++ Cbor.commaSeparated fields ++ " \x7d"

end BitSet

end SecurityKey
