import SecurityKey.Proofs.Entity
import SecurityKey.Proofs.Readers
import SecurityKey.Proofs.Request

/-!
# Reading credentials

What an authenticator tells about credentials is read from maps with one field for each part. The parts are found by
their keys, wherever their fields stand; a required field that is missing and a field of another shape make the map
malformed.
-/

namespace SecurityKey

open Cbor (Value entriesOf)

/-! ## Parts -/

/-- What a field may hold. -/
inductive FieldShape where
  | text
  | bytes
  | unsigned
  | bool
  | anything
  | relyingParty
  | user
  | credential

namespace FieldShape

/-- What is read from a field of the shape. -/
def Content : FieldShape → Type
  | text => String
  | bytes => Bytes
  | unsigned => UInt64
  | bool => Bool
  | anything => Value
  | relyingParty => RelyingPartyEntity
  | user => UserEntity
  | credential => CredentialDescriptor

/-- A value holds a content. -/
def Holds : (shape : FieldShape) → shape.Content → Value → Prop
  | text, content, value => value = .text content
  | bytes, content, value => value = .bytes content
  | unsigned, content, value => value = .unsigned content
  | bool, content, value => value = .bool content
  | anything, content, value => value = content
  | relyingParty, content, value => content.HeldBy value
  | user, content, value => content.HeldBy value
  | credential, content, value => content.HeldBy value

/-- A value holds some content of the shape. -/
def Fits (shape : FieldShape) (value : Value) : Prop :=
  ∃ content, shape.Holds content value

/-- What is read from a value is the content that it holds. -/
def IsReadBy (shape : FieldShape) (read : Value → Option shape.Content) : Prop :=
  ∀ value content, read value = some content ↔ shape.Holds content value

theorem isReadBy_text : text.IsReadBy Kind.text.read := fun _ _ => Value.text?_eq_some_iff

theorem isReadBy_bytes : bytes.IsReadBy Kind.bytes.read := fun _ _ => Value.bytes?_eq_some_iff

theorem isReadBy_unsigned : unsigned.IsReadBy Kind.unsigned.read := fun _ _ => Value.unsigned?_eq_some_iff

theorem isReadBy_bool : bool.IsReadBy Kind.bool.read := fun _ _ => Value.bool?_eq_some_iff

theorem isReadBy_relyingParty : relyingParty.IsReadBy RelyingPartyEntity.ofValue? :=
  fun _ _ => RelyingPartyEntity.ofValue?_eq_some_iff

theorem isReadBy_user : user.IsReadBy UserEntity.ofValue? := fun _ _ => UserEntity.ofValue?_eq_some_iff

theorem isReadBy_credential : credential.IsReadBy CredentialDescriptor.ofValue? :=
  fun _ _ => CredentialDescriptor.ofValue?_eq_some_iff

end FieldShape

/-- A part of an item: the key and the shape of its field, and what the field holds. -/
inductive ItemPart (α : Type) where
  | required (key : UInt64) (shape : FieldShape) (content : α → shape.Content)
  | optional (key : UInt64) (shape : FieldShape) (content : α → Option shape.Content)
  | defaulted (key : UInt64) (shape : FieldShape) (default : shape.Content) (content : α → shape.Content)

namespace ItemPart

variable {α : Type}

/-- The key of the field that the part is in. -/
def key : ItemPart α → UInt64
  | required key .. => key
  | optional key .. => key
  | defaulted key .. => key

/-- The shape that the field of the part has when it is there. -/
def shape : ItemPart α → FieldShape
  | required _ shape _ => shape
  | optional _ shape _ => shape
  | defaulted _ shape .. => shape

/-- The field of the part cannot be left out. -/
def IsRequired : ItemPart α → Prop
  | required .. => True
  | _ => False

/-- What an item has as this part is what was found under its key. -/
def Agrees : ItemPart α → α → Option Value → Prop
  | required _ shape content, item, found => ∃ value, found = some value ∧ shape.Holds (content item) value
  | optional _ _ content, item, none => content item = none
  | optional _ shape content, item, some value => ∃ held, content item = some held ∧ shape.Holds held value
  | defaulted _ _ default content, item, none => content item = default
  | defaulted _ shape _ content, item, some value => shape.Holds (content item) value

end ItemPart

/-! ## Reports -/

/-- What an authenticator tells about credentials. -/
inductive CredentialReport where
  | attestation
  | assertion
  | stored
  | relyingParty

namespace CredentialReport

/-- The items that the report is about. -/
def Item : CredentialReport → Type
  | attestation => Attestation
  | assertion => Assertion
  | stored => CredentialStore.StoredCredential
  | relyingParty => CredentialStore.RelyingParty

/-- The reader of an item in the fields of an answer. -/
def read : (report : CredentialReport) → Response → Result report.Item
  | attestation => Attestation.ofResponse
  | assertion => Assertion.ofResponse
  | stored => CredentialStore.StoredCredential.ofResponse
  | relyingParty => CredentialStore.RelyingParty.ofResponse

/-- What is made of a map with the given fields. -/
def decode (report : CredentialReport) (fields : List (UInt64 × Value)) : Result report.Item := do
  report.read (← Response.ofValue (.map (entriesOf fields)))

/-- The parts of an item, each with its key, the shape of its field and whether the field may be left out. -/
def parts : (report : CredentialReport) → List (ItemPart report.Item)
  | attestation => [
    .required 0x01 .text Attestation.format,
    .required 0x02 .bytes Attestation.authData,
    .defaulted 0x03 .anything (.map []) Attestation.statement,
    .optional 0x04 .bool Attestation.enterprise,
    .optional 0x05 .bytes Attestation.largeBlobKey]
  | assertion => [
    .optional 0x01 .credential Assertion.credential,
    .required 0x02 .bytes Assertion.authData,
    .required 0x03 .bytes Assertion.signature,
    .optional 0x04 .user Assertion.user,
    .optional 0x05 .unsigned Assertion.numberOfCredentials,
    .optional 0x06 .bool Assertion.userSelected,
    .optional 0x07 .bytes Assertion.largeBlobKey]
  | stored => [
    .required 0x06 .user CredentialStore.StoredCredential.user,
    .required 0x07 .credential CredentialStore.StoredCredential.descriptor,
    .required 0x08 .anything CredentialStore.StoredCredential.publicKey,
    .optional 0x0A .unsigned CredentialStore.StoredCredential.protection,
    .optional 0x0B .bytes CredentialStore.StoredCredential.largeBlobKey]
  | relyingParty => [
    .required 0x03 .relyingParty CredentialStore.RelyingParty.entity,
    .required 0x04 .bytes CredentialStore.RelyingParty.idHash]

/-- Fields hold an item: each of its parts is what stands under its key, and only parts that may be left out are. Fields
under other keys may hold anything. -/
structure HeldBy (report : CredentialReport) (item : report.Item) (fields : List (UInt64 × Value)) : Prop where
  held : ∀ part ∈ report.parts, ∀ value, (part.key, value) ∈ fields → part.Agrees item (some value)
  omitted : ∀ part ∈ report.parts, part.key ∉ fields.map Prod.fst → part.Agrees item none

end CredentialReport

/-! ## Reading one part -/

namespace ItemPart

variable {α : Type} {item : α} {response : Response} {key : UInt64} {shape : FieldShape} {missing : Malformation}

theorem agrees_required {kind : Kind shape.Content} {content : α → shape.Content} (reads : shape.IsReadBy kind.read) :
    (required key shape content).Agrees item (response.get? key) ↔
      ∃ option, response.field kind key = .ok option ∧ Result.ofOption missing option = .ok (content item) := by
  simp only [Result.ofOption_eq_ok_iff, exists_eq_right]
  cases found : response.get? key with
  | none => simp [Agrees, Response.field_of_none found]
  | some value => simp [Agrees, Response.field_eq_ok_iff found, reads value]

theorem agrees_require {kind : Kind shape.Content} {content : α → shape.Content} (reads : shape.IsReadBy kind.read) :
    (required key shape content).Agrees item (response.get? key) ↔ response.require kind key = .ok (content item) := by
  rw [Response.require, Result.bind_eq_ok_iff]
  exact agrees_required reads

theorem agrees_optional {kind : Kind shape.Content} {content : α → Option shape.Content}
    (reads : shape.IsReadBy kind.read) :
    (optional key shape content).Agrees item (response.get? key) ↔ response.field kind key = .ok (content item) := by
  cases found : response.get? key with
  | none => simp [Agrees, Response.field_of_none found, eq_comm]
  | some value => simp [Agrees, Response.field_eq_ok_iff found, reads value, and_comm]

theorem agrees_required_entity {decode : Value → Option shape.Content} {content : α → shape.Content}
    (reads : shape.IsReadBy decode) :
    (required key shape content).Agrees item (response.get? key) ↔
      ∃ value, Result.ofOption missing (response.get? key) = .ok value ∧
        Entity.read decode value = .ok (content item) := by
  simp only [Agrees, Result.ofOption_eq_ok_iff, Entity.read, reads _ (content item)]

theorem agrees_optional_entity {decode : Value → Option shape.Content} {content : α → Option shape.Content}
    (reads : shape.IsReadBy decode) :
    (optional key shape content).Agrees item (response.get? key) ↔
      (response.get? key).mapM (Entity.read decode) = .ok (content item) := by
  cases response.get? key with
  | none => simp [Agrees, pure, Except.pure, eq_comm]
  | some value =>
    have run : (some value).mapM (Entity.read decode) = (do return some (← Entity.read decode value)) := rfl
    rw [run, Result.bind_eq_ok_iff]
    simp only [Agrees, Entity.read, Result.ofOption_eq_ok_iff, reads value, pure, Except.pure, Except.ok.injEq]
    exact exists_congr fun held => by rw [and_comm, eq_comm]

theorem agrees_anything {content : α → Value} :
    (required key .anything content).Agrees item (response.get? key) ↔
      Result.ofOption missing (response.get? key) = .ok (content item) := by
  rw [Result.ofOption_eq_ok_iff]
  exact ⟨fun ⟨_, found, same⟩ => found.trans (congrArg some same), fun found => ⟨_, found, rfl⟩⟩

theorem agrees_defaulted {default : Value} {content : α → Value} :
    (defaulted key .anything default content).Agrees item (response.get? key) ↔
      content item = (response.get? key).getD default := by
  cases response.get? key with
  | none => rfl
  | some value => exact eq_comm

/-- A required part is not left out. -/
theorem not_agrees_none {part : ItemPart α} (required : part.IsRequired) : ¬part.Agrees item none := by
  cases part with
  | required => rintro ⟨value, none, -⟩; cases none
  | optional | defaulted => exact absurd required id

theorem Agrees.fits {part : ItemPart α} {value : Value} (h : part.Agrees item (some value)) :
    part.shape.Fits value := by
  cases part with
  | required key shape content =>
    obtain ⟨_, same, holds⟩ := h
    cases same
    exact ⟨_, holds⟩
  | optional =>
    obtain ⟨held, -, holds⟩ := h
    exact ⟨held, holds⟩
  | defaulted => exact ⟨_, h⟩

end ItemPart

/-! ## Reading a report -/

namespace CredentialReport

open FieldShape (isReadBy_text isReadBy_bytes isReadBy_unsigned isReadBy_bool isReadBy_relyingParty isReadBy_user
  isReadBy_credential)

open ItemPart (agrees_required agrees_require agrees_optional agrees_required_entity agrees_optional_entity
  agrees_anything agrees_defaulted)

variable {response : Response}

theorem attestation_eq_ok_iff {a : Attestation} : Attestation.ofResponse response = .ok a ↔
    ∀ part ∈ parts .attestation, part.Agrees a (response.get? part.key) := by
  simp only [parts, List.forall_mem_cons, List.not_mem_nil, false_implies, implies_true, and_true, ItemPart.key,
    Attestation.ofResponse, Result.bind_eq_ok_iff, pure, Except.pure, Except.ok.injEq]
  -- The statement is taken without a check, so it has no step of its own on the left.
  constructor
  · rintro ⟨text, h1, format, isText, authData, h2, enterprise, h4, largeBlobKey, h5, rfl⟩
    exact ⟨(agrees_required isReadBy_text).2 ⟨text, h1, isText⟩, (agrees_require isReadBy_bytes).2 h2,
      agrees_defaulted.2 rfl, (agrees_optional isReadBy_bool).2 h4, (agrees_optional isReadBy_bytes).2 h5⟩
  · rintro ⟨h1, h2, h3, h4, h5⟩
    obtain ⟨text, h1, isText⟩ := (agrees_required isReadBy_text).1 h1
    exact ⟨text, h1, _, isText, _, (agrees_require isReadBy_bytes).1 h2, _, (agrees_optional isReadBy_bool).1 h4, _,
      (agrees_optional isReadBy_bytes).1 h5, by rw [← agrees_defaulted.1 h3]⟩

theorem assertion_eq_ok_iff {a : Assertion} : Assertion.ofResponse response = .ok a ↔
    ∀ part ∈ parts .assertion, part.Agrees a (response.get? part.key) := by
  simp only [parts, List.forall_mem_cons, List.not_mem_nil, false_implies, implies_true, and_true, ItemPart.key,
    Assertion.ofResponse, Result.bind_eq_ok_iff, pure, Except.pure, Except.ok.injEq]
  constructor
  · rintro ⟨credential, h1, authData, h2, signature, h3, user, h4, number, h5, selected, h6, largeBlobKey, h7, rfl⟩
    exact ⟨(agrees_optional_entity isReadBy_credential).2 h1, (agrees_require isReadBy_bytes).2 h2,
      (agrees_require isReadBy_bytes).2 h3, (agrees_optional_entity isReadBy_user).2 h4,
      (agrees_optional isReadBy_unsigned).2 h5, (agrees_optional isReadBy_bool).2 h6,
      (agrees_optional isReadBy_bytes).2 h7⟩
  · rintro ⟨h1, h2, h3, h4, h5, h6, h7⟩
    exact ⟨_, (agrees_optional_entity isReadBy_credential).1 h1, _, (agrees_require isReadBy_bytes).1 h2, _,
      (agrees_require isReadBy_bytes).1 h3, _, (agrees_optional_entity isReadBy_user).1 h4, _,
      (agrees_optional isReadBy_unsigned).1 h5, _, (agrees_optional isReadBy_bool).1 h6, _,
      (agrees_optional isReadBy_bytes).1 h7, rfl⟩

theorem stored_eq_ok_iff {credential : CredentialStore.StoredCredential} :
    CredentialStore.StoredCredential.ofResponse response = .ok credential ↔
      ∀ part ∈ parts .stored, part.Agrees credential (response.get? part.key) := by
  simp only [parts, List.forall_mem_cons, List.not_mem_nil, false_implies, implies_true, and_true, ItemPart.key,
    CredentialStore.StoredCredential.ofResponse, Result.bind_eq_ok_iff, pure, Except.pure, Except.ok.injEq]
  constructor
  · rintro ⟨user, h6, _, isUser, descriptor, h7, _, isCredential, publicKey, h8, protection, hA, largeBlobKey, hB, rfl⟩
    exact ⟨(agrees_required_entity isReadBy_user).2 ⟨user, h6, isUser⟩,
      (agrees_required_entity isReadBy_credential).2 ⟨descriptor, h7, isCredential⟩, agrees_anything.2 h8,
      (agrees_optional isReadBy_unsigned).2 hA, (agrees_optional isReadBy_bytes).2 hB⟩
  · rintro ⟨h6, h7, h8, hA, hB⟩
    obtain ⟨user, h6, isUser⟩ := (agrees_required_entity isReadBy_user).1 h6
    obtain ⟨descriptor, h7, isCredential⟩ := (agrees_required_entity isReadBy_credential).1 h7
    exact ⟨user, h6, _, isUser, descriptor, h7, _, isCredential, _, agrees_anything.1 h8, _,
      (agrees_optional isReadBy_unsigned).1 hA, _, (agrees_optional isReadBy_bytes).1 hB, rfl⟩

theorem relyingParty_eq_ok_iff {rp : CredentialStore.RelyingParty} :
    CredentialStore.RelyingParty.ofResponse response = .ok rp ↔
      ∀ part ∈ parts .relyingParty, part.Agrees rp (response.get? part.key) := by
  simp only [parts, List.forall_mem_cons, List.not_mem_nil, false_implies, implies_true, and_true, ItemPart.key,
    CredentialStore.RelyingParty.ofResponse, Result.bind_eq_ok_iff, pure, Except.pure, Except.ok.injEq]
  constructor
  · rintro ⟨entity, h3, _, isRelyingParty, idHash, h4, rfl⟩
    exact ⟨(agrees_required_entity isReadBy_relyingParty).2 ⟨entity, h3, isRelyingParty⟩,
      (agrees_require isReadBy_bytes).2 h4⟩
  · rintro ⟨h3, h4⟩
    obtain ⟨entity, h3, isRelyingParty⟩ := (agrees_required_entity isReadBy_relyingParty).1 h3
    exact ⟨entity, h3, _, isRelyingParty, _, (agrees_require isReadBy_bytes).1 h4, rfl⟩

theorem read_eq_ok_iff (report : CredentialReport) {item : report.Item} : report.read response = .ok item ↔
    ∀ part ∈ report.parts, part.Agrees item (response.get? part.key) := by
  cases report with
  | attestation => exact attestation_eq_ok_iff
  | assertion => exact assertion_eq_ok_iff
  | stored => exact stored_eq_ok_iff
  | relyingParty => exact relyingParty_eq_ok_iff

instance (report : CredentialReport) (response : Response) : Result.Reading (report.read response) := by
  cases report with
  | attestation => exact inferInstanceAs (Result.Reading (Attestation.ofResponse response))
  | assertion => exact inferInstanceAs (Result.Reading (Assertion.ofResponse response))
  | stored => exact inferInstanceAs (Result.Reading (CredentialStore.StoredCredential.ofResponse response))
  | relyingParty => exact inferInstanceAs (Result.Reading (CredentialStore.RelyingParty.ofResponse response))

/-! ## From the fields of a map -/

variable {report : CredentialReport} {item : report.Item} {fields others : List (UInt64 × Value)}

theorem decode_eq (report : CredentialReport) (fields : List (UInt64 × Value)) :
    report.decode fields = report.read ⟨fields⟩ := by
  have keyed : Response.ofValue (.map (entriesOf fields)) = .ok ⟨fields⟩ := Request.ofEntries_entriesOf fields
  rw [decode, keyed]
  rfl

theorem HeldBy.decode_eq (h : report.HeldBy item fields) : report.decode fields = .ok item := by
  rw [CredentialReport.decode_eq, read_eq_ok_iff]
  intro part known
  cases found : (Response.mk fields).get? part.key with
  | none => exact h.omitted part known (lookup_eq_none_iff.1 found)
  | some value => exact h.held part known value (mem_of_lookup_eq_some found)

theorem heldBy_of_decode (distinct : (fields.map Prod.fst).Nodup) (h : report.decode fields = .ok item) :
    report.HeldBy item fields := by
  rw [CredentialReport.decode_eq, read_eq_ok_iff] at h
  constructor
  · intro part known value mem
    have found : (Response.mk fields).get? part.key = some value := (lookup_eq_some_iff_mem distinct).2 mem
    exact found ▸ h part known
  · intro part known absent
    have found : (Response.mk fields).get? part.key = none := lookup_eq_none_iff.2 absent
    exact found ▸ h part known

/-- Only what stands under the keys is read. -/
theorem read_congr {response other : Response} (same : ∀ key, response.get? key = other.get? key) :
    report.read response = report.read other := by
  have field {α : Type} (kind : Kind α) (key : UInt64) : response.field kind key = other.field kind key := by
    rw [Response.field, Response.field, same]
  have require {α : Type} (kind : Kind α) (key : UInt64) : response.require kind key = other.require kind key := by
    rw [Response.require, Response.require, field]
  cases report with
  | attestation =>
    show Attestation.ofResponse response = Attestation.ofResponse other
    simp only [Attestation.ofResponse, field, require, same]
  | assertion =>
    show Assertion.ofResponse response = Assertion.ofResponse other
    simp only [Assertion.ofResponse, field, require, same]
  | stored =>
    show CredentialStore.StoredCredential.ofResponse response = CredentialStore.StoredCredential.ofResponse other
    simp only [CredentialStore.StoredCredential.ofResponse, field, same]
  | relyingParty =>
    show CredentialStore.RelyingParty.ofResponse response = CredentialStore.RelyingParty.ofResponse other
    simp only [CredentialStore.RelyingParty.ofResponse, require, same]

theorem decode_perm (distinct : (fields.map Prod.fst).Nodup) (perm : others.Perm fields) :
    report.decode others = report.decode fields := by
  rw [CredentialReport.decode_eq, CredentialReport.decode_eq]
  exact read_congr fun key => (lookup_perm perm.symm distinct).symm

theorem decode_eq_error (h : ∀ item, ¬report.HeldBy item fields) (distinct : (fields.map Prod.fst).Nodup) :
    ∃ malformation, report.decode fields = .error (.badResponse malformation) := by
  cases decoded : report.decode fields with
  | ok item => exact absurd (heldBy_of_decode distinct decoded) (h item)
  | error failure =>
    rw [CredentialReport.decode_eq] at decoded
    obtain ⟨malformation, rfl⟩ := Result.Reading.isReading failure decoded
    exact ⟨malformation, rfl⟩

/-- A report is read from any fields that hold it, whatever their order and whatever stands under further keys, and
nothing else is read from fields with distinct keys, whose order makes no difference. When a required field is missing
or a field is of another shape than its part, the map is malformed. -/
theorem credentials_are_read_by_key (report : CredentialReport) :
    (∀ item fields, report.HeldBy item fields → report.decode fields = .ok item) ∧
    ∀ fields : List (UInt64 × Value), (fields.map Prod.fst).Nodup →
      (∀ item, report.decode fields = .ok item ↔ report.HeldBy item fields) ∧
      (∀ others, others.Perm fields → report.decode others = report.decode fields) ∧
      ∀ part ∈ report.parts,
        (part.IsRequired ∧ part.key ∉ fields.map Prod.fst) ∨
          (∃ value, (part.key, value) ∈ fields ∧ ¬part.shape.Fits value) →
        ∃ malformation, report.decode fields = .error (.badResponse malformation) := by
  refine ⟨fun item fields held => held.decode_eq, fun fields distinct =>
    ⟨fun item => ⟨heldBy_of_decode distinct, HeldBy.decode_eq⟩, fun others perm => decode_perm distinct perm, ?_⟩⟩
  rintro part known (⟨required, missing⟩ | ⟨value, mem, other⟩)
  · refine decode_eq_error (fun item held => ?_) distinct
    exact ItemPart.not_agrees_none required (held.omitted part known missing)
  · refine decode_eq_error (fun item held => ?_) distinct
    exact other (held.held part known value mem).fits

/-- The fields of an assertion with one of a later standard between them, out of order. The map of the user has a member
twice that no part is read from. -/
def scattered : List (UInt64 × Value) := [
  (0x05, .unsigned 2),
  (0x03, .bytes [0x30, 0x45]),
  (0x40, .null),
  (0x04, .map [(.text "icon", .array []), (.text "displayName", .null), (.text "id", .bytes [0x01]),
    (.text "icon", .bool true)]),
  (0x02, .bytes [0xAA])]

/-- The assertion that these fields hold. -/
def scatteredAssertion : Assertion where
  credential := none
  authData := [0xAA]
  signature := [0x30, 0x45]
  user := some ⟨[0x01], none, none⟩
  numberOfCredentials := some 2
  userSelected := none
  largeBlobKey := none

theorem heldBy_scattered : assertion.HeldBy scatteredAssertion scattered := by
  have user : UserEntity.HeldBy ⟨[0x01], none, none⟩ (.map [(.text "icon", .array []), (.text "displayName", .null),
      (.text "id", .bytes [0x01]), (.text "icon", .bool true)]) := UserEntity.ofValue?_eq_some_iff.1 rfl
  constructor
  · simpa [parts, scattered, ItemPart.key] using ⟨⟨_, rfl, rfl⟩, ⟨_, rfl, rfl⟩, ⟨_, rfl, user⟩, ⟨_, rfl, rfl⟩⟩
  · simpa [parts, scattered, ItemPart.key] using ⟨rfl, rfl, rfl⟩

theorem assertion_of_scattered :
    assertion.decode scattered = .ok scatteredAssertion ∧
      assertion.decode scattered.reverse = .ok scatteredAssertion ∧
      (∃ malformation, assertion.decode [(0x02, .bytes [])] = .error (.badResponse malformation)) ∧
      ∃ malformation, assertion.decode ((0x07, .text "") :: scattered) = .error (.badResponse malformation) := by
  obtain ⟨reads, distinct⟩ := credentials_are_read_by_key assertion
  have held := reads scatteredAssertion scattered heldBy_scattered
  obtain ⟨-, perm, -⟩ := distinct scattered (by decide)
  obtain ⟨-, -, missing⟩ := distinct [(0x02, .bytes [])] (by decide)
  obtain ⟨-, -, other⟩ := distinct ((0x07, .text "") :: scattered) (by decide)
  refine ⟨held, (perm _ (List.reverse_perm _)).trans held, ?_, ?_⟩
  · exact missing (.required 0x03 .bytes Assertion.signature) (by simp [parts]) (.inl ⟨trivial, by decide⟩)
  · refine other (.optional 0x07 .bytes Assertion.largeBlobKey) (by simp [parts]) (.inr ⟨_, List.mem_cons_self, ?_⟩)
    rintro ⟨content, holds⟩
    cases holds

end CredentialReport

end SecurityKey
