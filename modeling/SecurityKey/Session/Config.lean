import SecurityKey.Cbor.Reader
import SecurityKey.Cbor.Writer
import SecurityKey.Entity

/-!
# Session settings

The settings of a session, and their stored form: a map with text keys whose absent members have their defaults.
-/

namespace SecurityKey

open Cbor (Value)

/-- The settings of a session: the PIN/UV auth protocol versions in order of preference, and whether long smartcard
requests may use extended length. -/
structure Config where
  pinUvProtocols : List UInt8 := [2, 1]
  extendedLength : Bool := true
  deriving DecidableEq

namespace Config

/-- The byte that a value holds. -/
def byte? : Value → Option UInt8
  | .unsigned n => if n < 256 then some n.toUInt8 else none
  | .tag 2 (.bytes magnitude) => if Bytes.toNat magnitude < 256 then some (.ofNat (Bytes.toNat magnitude)) else none
  | .tag 3 (.bytes _) => none
  | .tag _ content => byte? content
  | _ => none

/-- The list of bytes that a value holds, as a list or as a byte string. -/
def bytes? (value : Value) : Option (List UInt8) :=
  match Entity.untagged value with
  | .bytes content => some content
  | .array items => items.mapM byte?
  | _ => none

/-- The longest name of a member, in bytes. -/
def maxNameLength : Nat := 4096

open Cbor in
/-- The name of a member, a text or a byte string of definite length behind fewer than `fuel` tags. -/
def readName : (fuel : Nat) → Reader Bytes
  | 0 => failure
  | fuel + 1 => do
    match ← readHead with
    | (2, _, .number n) => if n ≤ maxNameLength then Reader.take n else failure
    | (3, _, .number n) =>
      if n ≤ maxNameLength then return Bytes.ofText (← Bytes.toText? (← Reader.take n)) else failure
    | (6, _, .number _) => readName fuel
    | _ => failure

open Cbor in
/-- A member: its name and its content. -/
def readMember : Reader (Bytes × Value) := do
  let name ← fun input => readName input.length input
  return (name, ← readItem (maxDepth - 1))

open Cbor in
/-- The members of a map behind fewer than `fuel` tags. -/
def readMembers : (fuel : Nat) → Reader (List (Bytes × Value))
  | 0 => failure
  | fuel + 1 => do
    match ← readHead with
    | (5, _, length) => readSequence readMember length
    | (6, _, .number _) => readMembers fuel
    | _ => failure

/-- The content of a member, or its default when it is absent. It may occur once. -/
def member (name : String) (read : Value → Option α) (default : α) (members : List (Bytes × Value)) : Option α :=
  match members.filter (·.1 == Bytes.ofText name) with
  | [] => some default
  | [(_, content)] => read content
  | _ => none

/-- The settings with the given members. -/
def ofMembers? (members : List (Bytes × Value)) : Option Config := do
  let standard : Config := {}
  return {
    pinUvProtocols := ← member "pin_uv_protocols" bytes? standard.pinUvProtocols members
    extendedLength := ←
      member "extended_length" (fun content => (Entity.untagged content).bool?) standard.extendedLength members }

/-- The settings whose stored form a byte string starts with. -/
def decode? (stored : Bytes) : Option Config := do
  let (members, _) ← readMembers stored.length stored
  ofMembers? members

/-- The stored form of settings. -/
def encode (config : Config) : Bytes :=
  (Value.map [
    (.text "pin_uv_protocols", .array (config.pinUvProtocols.map .ofByte)),
    (.text "extended_length", .bool config.extendedLength)]).write

end Config

end SecurityKey
