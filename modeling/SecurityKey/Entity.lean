import SecurityKey.Failure

/-!
# Entities

Relying parties, users, credentials and their algorithms are maps with text keys. Reading one skips tags and members
it does not know; a known member may occur once.
-/

namespace SecurityKey

open Cbor (Value)

namespace Entity

/-- A value without the tags around it. -/
def untagged : Value → Value
  | .tag _ content => untagged content
  | value => value

/-- The members of an entity, of which those in `known` occur once at most. -/
def members? (known : List String) (value : Value) : Option (List (String × Value)) := do
  let entries ← (untagged value).map?
  let members ← entries.mapM fun (key, value) => do return (← (untagged key).text?, value)
  if known.all fun name => members.countP (·.1 == name) ≤ 1 then return members else none

/-- The text that a value holds. -/
def text? (value : Value) : Option String :=
  (untagged value).text?

/-- The bytes that a value holds. -/
def bytes? (value : Value) : Option Bytes :=
  (untagged value).bytes?

/-- The texts that a value holds. -/
def texts? (value : Value) : Option (List String) := do
  (← (untagged value).array?).mapM text?

/-- The integer that a value holds, as a number or as a bignum. -/
def integer? : Value → Option Int64
  | .tag number (.bytes content) =>
    let magnitude := Bytes.toNat content
    if magnitude < 0x8000000000000000 then
      if number = 2 then some (.ofNat magnitude)
      else if number = 3 then some (.ofInt (-1 - magnitude))
      else none
    else none
  | value => value.signed?

/-- A member that has to be there. -/
def require (read : Value → Option α) (members : List (String × Value)) (name : String) : Option α :=
  (members.lookup name).bind read

/-- A member that may be absent or null. -/
def optional (read : Value → Option α) (members : List (String × Value)) (name : String) : Option (Option α) :=
  match members.lookup name with
  | none | some .null => some none
  | some value => (read value).map some

/-- An entity that an answer holds. -/
def read (decode : Value → Option α) (value : Value) : Result α :=
  Result.ofOption .entity (decode value)

/-- A member that is written when it is there. -/
def member? (name : String) (write : α → Value) (content : Option α) : List (Value × Value) :=
  (content.map fun a => (.text name, write a)).toList

end Entity

open Entity

/-- A relying party. -/
structure RelyingPartyEntity where
  id : String
  name : Option String
  deriving DecidableEq

namespace RelyingPartyEntity

/-- The relying party that a value holds. -/
def ofValue? (value : Value) : Option RelyingPartyEntity := do
  let members ← members? ["id", "name"] value
  return { id := ← require text? members "id", name := ← optional text? members "name" }

/-- A relying party as a value. -/
def toValue (rp : RelyingPartyEntity) : Value :=
  .map ((.text "id", .text rp.id) :: member? "name" .text rp.name)

end RelyingPartyEntity

/-- A user of a relying party. -/
structure UserEntity where
  id : Bytes
  name : Option String
  displayName : Option String
  deriving DecidableEq

namespace UserEntity

/-- The user that a value holds. -/
def ofValue? (value : Value) : Option UserEntity := do
  let members ← members? ["id", "name", "displayName"] value
  return {
    id := ← require bytes? members "id"
    name := ← optional text? members "name"
    displayName := ← optional text? members "displayName" }

/-- A user as a value. -/
def toValue (user : UserEntity) : Value :=
  .map ((.text "id", .bytes user.id) ::
    (member? "name" .text user.name ++ member? "displayName" .text user.displayName))

end UserEntity

/-- A type of credential and its algorithm. -/
structure CredentialParameters where
  type : String
  algorithm : Int64
  deriving DecidableEq

namespace CredentialParameters

/-- Public key credentials with an algorithm. -/
def publicKey (algorithm : Int64) : CredentialParameters :=
  ⟨"public-key", algorithm⟩

/-- The type and algorithm that a value holds. -/
def ofValue? (value : Value) : Option CredentialParameters := do
  let members ← members? ["type", "alg"] value
  return { type := ← require text? members "type", algorithm := ← require integer? members "alg" }

/-- A type and algorithm as a value. -/
def toValue (parameters : CredentialParameters) : Value :=
  .map [(.text "type", .text parameters.type), (.text "alg", .ofInt64 parameters.algorithm)]

end CredentialParameters

/-- A credential by its type and ID. -/
structure CredentialDescriptor where
  type : String
  id : Bytes
  transports : Option (List String)
  deriving DecidableEq

namespace CredentialDescriptor

/-- The public key credential with an ID. -/
def publicKey (id : Bytes) : CredentialDescriptor :=
  ⟨"public-key", id, none⟩

/-- The credential that a value holds. -/
def ofValue? (value : Value) : Option CredentialDescriptor := do
  let members ← members? ["type", "id", "transports"] value
  return {
    type := ← require text? members "type"
    id := ← require bytes? members "id"
    transports := ← optional texts? members "transports" }

/-- A credential as a value. -/
def toValue (credential : CredentialDescriptor) : Value :=
  .map ((.text "type", .text credential.type) :: (.text "id", .bytes credential.id) ::
    member? "transports" (fun names => .array (names.map .text)) credential.transports)

end CredentialDescriptor

end SecurityKey
