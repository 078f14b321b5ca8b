import SecurityKey.Cbor.Value
import SecurityKey.Text.Quoted

/-!
# COSE keys

Public keys travel as maps with integer and text labels. A P-256 key holds its type, curve and two coordinates; it is
written with its algorithm, and read together with any further parameters that are well formed.
-/

namespace SecurityKey.Crypto

open Cbor

/-- The type of a key: a registered one or a text. -/
inductive KeyType where
  | reserved
  | octetPair
  | ellipticCurve
  | rsa
  | symmetric
  | hashBased
  | walnut
  | text (name : String)
  deriving DecidableEq

namespace KeyType

/-- The type that a value names. -/
def ofValue? (value : Value) : Option KeyType :=
  match value with
  | .text name => some (.text name)
  | .unsigned n =>
    [reserved, octetPair, ellipticCurve, rsa, symmetric, hashBased, walnut][n.toNat]?
  | _ => none

/-- The text of a type in a message. -/
def describe : KeyType → String
  | reserved => "Assigned(Reserved)"
  | octetPair => "Assigned(OKP)"
  | ellipticCurve => "Assigned(EC2)"
  | rsa => "Assigned(RSA)"
  | symmetric => "Assigned(Symmetric)"
  | hashBased => "Assigned(HSS_LMS)"
  | walnut => "Assigned(WalnutDSA)"
  | text name => "Text(" ++ Text.quote name ++ ")"

end KeyType

/-- The label of a key parameter. -/
inductive Label where
  | number (n : Int64)
  | text (name : String)
  deriving DecidableEq

/-- The label that a map key holds. -/
def Label.ofValue? : Value → Option Label
  | .text name => some (.text name)
  | value => value.signed?.map .number

/-- A coordinate of a point. -/
inductive Coordinate where
  | x
  | y
  deriving DecidableEq

/-- Why a value is no usable public key. -/
inductive KeyFault where
  | notUncompressed
  | malformed
  | unexpectedType (found : KeyType)
  | unexpectedCurve (found : Option UInt64)
  | badCoordinate (which : Coordinate)
  | noAgreement
  deriving DecidableEq

/-- The text of a fault in a message. -/
def KeyFault.message : KeyFault → String
  | notUncompressed => "Public key must be an uncompressed P-256 point"
  | malformed => "COSE"
  | unexpectedType found => "Unexpected key type " ++ found.describe
  | unexpectedCurve none => "Unexpected curve None"
  | unexpectedCurve (some curve) => "Unexpected curve Some(" ++ toString curve.toNat ++ ")"
  | badCoordinate .x => "Bad X coordinate"
  | badCoordinate .y => "Bad Y coordinate"
  | noAgreement => "Key agreement failed"

namespace CoseKey

/-- The algorithm of a key that is used for signatures with P-256 and SHA-256. -/
def es256 : Int64 := -7

/-- The algorithm of a key that is used for signatures with P-384 and SHA-384. -/
def es384 : Int64 := -35

/-- The algorithm of a key that is used for signatures with Edwards curves. -/
def eddsa : Int64 := -8

/-- The algorithm of a key that is used for key agreement. -/
def keyAgreement : Int64 := -25

/-- The algorithms that are registered, ascending; those from -65536 down are for private use. -/
def algorithms : List Int64 :=
  [-65535, -260, -259, -258, -257, -47, -46, -45, -44, -43, -42, -41, -40, -39, -38, -37, -36, -35, -34, -33, -32, -31,
    -30, -29, -28, -27, -26, -25, -18, -17, -16, -15, -14, -13, -12, -11, -10, -8, -7, -6, -5, -4, -3, 0, 1, 2, 3, 4, 5,
    6, 7, 10, 11, 12, 13, 14, 15, 24, 25, 26, 30, 31, 32, 33, 34]

/-- The key with the uncompressed P-256 form `point` for the algorithm `algorithm`. -/
def ofPoint (algorithm : Int64) (point : Bytes) : Except KeyFault Value :=
  match point with
  | 4 :: coordinates =>
    if coordinates.length = 64 then
      .ok (.map [(.unsigned 1, .unsigned 2), (.unsigned 3, .ofInt64 algorithm), (.negative 0, .unsigned 1),
        (.negative 1, .bytes (coordinates.take 32)), (.negative 2, .bytes (coordinates.drop 32))])
    else .error .notUncompressed
  | _ => .error .notUncompressed

/-- Whether a value names an algorithm. -/
def isAlgorithm : Value → Bool
  | .text _ => true
  | value => value.signed?.any fun n => algorithms.contains n || n < -65536

/-- Whether a value is a byte string with at least one byte. -/
def isNonemptyBytes (value : Value) : Bool :=
  value.bytes?.any (!·.isEmpty)

/-- Whether a value is a list of different operations, with at least one. -/
def isOperations (value : Value) : Bool :=
  match value.array?.bind (·.mapM Label.ofValue?) with
  | some operations =>
    !operations.isEmpty && decide operations.Nodup && operations.all fun
      | .number n => 1 ≤ n && n ≤ 10
      | .text _ => true
  | none => false

/-- Whether a parameter that all keys share has the form it should have. -/
def isWellFormed (parameter : Label × Value) : Bool :=
  match parameter.1 with
  | .number 1 => (KeyType.ofValue? parameter.2).isSome
  | .number 2 => isNonemptyBytes parameter.2
  | .number 3 => isAlgorithm parameter.2
  | .number 4 => isOperations parameter.2
  | .number 5 => isNonemptyBytes parameter.2
  | _ => true

/-- The parameters of a key, under different labels and well formed. -/
def parameters? (key : Value) : Option (List (Label × Value)) := do
  let entries ← key.map?
  let parameters ← entries.mapM fun (label, value) => do return (← Label.ofValue? label, value)
  if (parameters.map (·.1)).Nodup ∧ parameters.all isWellFormed then return parameters else none

/-- The parameters of a key together with its type, which has to be there. -/
def typed? (key : Value) : Option (KeyType × List (Label × Value)) := do
  let parameters ← parameters? key
  let keyType ← (parameters.lookup (.number 1)).bind KeyType.ofValue?
  if keyType = .reserved then none else return (keyType, parameters)

/-- A coordinate, which has to be a byte string of 32 bytes. -/
def coordinate (which : Coordinate) (value : Option Value) : Except KeyFault Bytes :=
  match value.bind Value.bytes? with
  | some bytes => if bytes.length = 32 then .ok bytes else .error (.badCoordinate which)
  | none => .error (.badCoordinate which)

/-- The uncompressed form of a P-256 key. -/
def toPoint (key : Value) : Except KeyFault Bytes :=
  match typed? key with
  | none => .error .malformed
  | some (keyType, parameters) => do
    if keyType ≠ .ellipticCurve then throw (.unexpectedType keyType)
    let curve := (parameters.lookup (.number (-1))).bind Value.unsigned?
    if curve ≠ some 1 then throw (.unexpectedCurve curve)
    let x ← coordinate .x (parameters.lookup (.number (-2)))
    let y ← coordinate .y (parameters.lookup (.number (-3)))
    return 4 :: (x ++ y)

end CoseKey

end SecurityKey.Crypto
