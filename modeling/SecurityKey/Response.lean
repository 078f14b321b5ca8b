import SecurityKey.Cbor.Reader
import SecurityKey.Failure

/-!
# Responses

The data of a successful answer is a map with unsigned keys. Its fields are asked for by key and kind: a field of
another kind makes the answer malformed, an absent one does so only when it is required.
-/

namespace SecurityKey

open Cbor (Value)

/-- The data of an answer. -/
structure Response where
  entries : List (UInt64 × Value)

/-- What a field may hold, and the name of that in a message. -/
structure Kind (α : Type) where
  name : String
  read : Value → Option α

namespace Kind

/-- Byte strings. -/
def bytes : Kind Bytes := ⟨"a byte string", Value.bytes?⟩

/-- Unsigned 64-bit integers. -/
def unsigned : Kind UInt64 := ⟨"an unsigned integer", Value.unsigned?⟩

/-- Signed 64-bit integers. -/
def signed : Kind Int64 := ⟨"an integer", Value.signed?⟩

/-- Booleans. -/
def bool : Kind Bool := ⟨"a boolean", Value.bool?⟩

/-- Texts. -/
def text : Kind String := ⟨"a text string", Value.text?⟩

/-- Maps. -/
def map : Kind (List (Value × Value)) := ⟨"a map", Value.map?⟩

/-- Arrays. -/
def array : Kind (List Value) := ⟨"an array", Value.array?⟩

end Kind

namespace Response

/-- The response with the entries of a map. -/
def ofEntries (entries : List (Value × Value)) : Result Response := do
  let keyed ← entries.mapM fun (key, value) => do
    return (← Result.ofOption (.mapKey key) key.unsigned?, value)
  return ⟨keyed⟩

/-- The response that a value holds. -/
def ofValue (value : Value) : Result Response :=
  match value with
  | .map entries => ofEntries entries
  | other => .error (.badResponse (.notMap other))

/-- The response that a byte string starts with. -/
def ofBytes (data : Bytes) : Result Response := do
  ofValue (← Result.ofOption .notCbor (Value.read? data))

/-- A response as a value. -/
def toValue (response : Response) : Value :=
  .map (response.entries.map fun (key, value) => (.unsigned key, value))

/-- The number of entries. -/
def size (response : Response) : Nat :=
  response.entries.length

/-- Whether there are no entries. -/
def isEmpty (response : Response) : Bool :=
  response.entries.isEmpty

/-- The first value under a key. -/
def get? (response : Response) (key : UInt64) : Option Value :=
  response.entries.lookup key

/-- Whether there is a value under a key. -/
def contains (response : Response) (key : UInt64) : Bool :=
  (response.get? key).isSome

/-- The field under a key, when it is there. -/
def field (response : Response) (kind : Kind α) (key : UInt64) : Result (Option α) :=
  match response.get? key with
  | none => .ok none
  | some value => some <$> Result.ofOption (.fieldKind key kind.name value) (kind.read value)

/-- The field under a key, which has to be there. -/
def require (response : Response) (kind : Kind α) (key : UInt64) : Result α := do
  Result.ofOption (.missingField key) (← response.field kind key)

/-- The items of a list under a key, of which there are none when the list is absent. Every item has to be of the
kind `read`, which a message calls `name`. -/
def list (response : Response) (name : String) (read : Value → Option α) (key : UInt64) : Result (List α) := do
  let items := (← response.field .array key).getD []
  items.mapM fun item => Result.ofOption (.listKind key name) (read item)

/-- The texts in a list. -/
def texts (response : Response) (key : UInt64) : Result (List String) :=
  response.list "text" Value.text? key

/-- The unsigned integers in a list. -/
def unsigneds (response : Response) (key : UInt64) : Result (List UInt64) :=
  response.list "integers" Value.unsigned? key

/-- The map with unsigned keys under a key. -/
def nested (response : Response) (key : UInt64) : Result (Option Response) := do
  match ← response.field .map key with
  | none => return none
  | some entries => return some (← ofEntries entries)

end Response

end SecurityKey
