import SecurityKey.Credential.Assertion
import SecurityKey.Fingerprint.Client
import SecurityKey.Pin.Client
import SecurityKey.Proofs.Arguments
import SecurityKey.Proofs.Entity

/-!
# Parameters that arrive

Each set of parameters has its fields under the keys of the standard. What an authenticator reads from a request is each
field that was given, under its key and as what it was given, and no other.
-/

namespace SecurityKey

open Cbor

open Entity (IsMapOf textEntries optionalMember)

/-! ## Parts of requests -/

namespace Cbor

variable {depth : Nat} {value : Value} {members : List (String × Value)}

/-- A value without tags and with at most `depth` levels of arrays and maps. -/
inductive Plain : (depth : Nat) → Value → Prop where
  | atom (depth : Nat) {value : Value} (atom : value.isAtom) : Plain depth value
  | array {depth : Nat} {items : List Value} (each : ∀ item ∈ items, Plain depth item) :
      Plain (depth + 1) (.array items)
  | map {depth : Nat} {entries : List (Value × Value)} (keys : ∀ entry ∈ entries, entry.1.isKey)
      (values : ∀ entry ∈ entries, Plain depth entry.2) : Plain (depth + 1) (.map entries)

theorem Plain.orderable (h : Plain depth value) : Orderable value := by
  induction h with
  | atom _ atom => exact .atom atom
  | array _ ih => exact .array ih
  | map keys _ ih => exact .map (List.forall_mem_map.2 keys) ih

theorem Sized.readable_atom (sized : Sized value) (atom : value.isAtom) : Readable depth value := by
  cases sized with
  | unsigned n => exact .unsigned depth n
  | negative n => exact .negative depth n
  | bytes size => exact .bytes depth size
  | text size => exact .text depth size
  | bool b => exact .bool depth b
  | null => exact .null depth
  | float bits => exact .float depth bits
  | array | map | tag => cases atom

theorem Value.isAtom_of_isKey (key : value.isKey) : value.isAtom := by
  cases value <;> first | rfl | cases key

theorem Plain.readable (h : Plain depth value) (sized : Sized value) : Readable depth value := by
  induction h with
  | atom _ atom => exact sized.readable_atom atom
  | array _ ih =>
      cases sized with
      | array size each => exact .array size fun item mem => ih item mem (each item mem)
  | map isKey _ ih =>
      cases sized with
      | map size keys values =>
          refine .map size (fun entry mem => ?_) fun entry mem => ih entry mem (values entry mem)
          exact (keys entry mem).readable_atom (Value.isAtom_of_isKey (isKey entry mem))

/-- A value as it arrives: the same but for the order of map entries, which is the canonical one. -/
structure Arranged (given received : Value) : Prop where
  ordered : given.ordered = .ok received
  reordered : Reordered given received

/-- A value that can be a part of a request: it has a canonical form, from which it is read back. -/
structure Embeddable (depth : Nat) (value : Value) : Prop where
  encodable : ∃ encoded, value.canonical = .ok encoded
  readable : Readable depth value

theorem Embeddable.orderable (h : Embeddable depth value) : Orderable value := by
  obtain ⟨encoded, written⟩ := h.encodable
  exact orderable_of_order value (Value.canonical_eq_ok_iff.1 written).1

theorem Embeddable.arranged (h : Embeddable depth value) : Arranged value value.order.1 :=
  ⟨h.orderable.ordered, h.orderable.reordered⟩

/-- In order, members are still the same, each with its own content in order. -/
theorem isMapOf_order (h : ∀ member ∈ members, Orderable member.2) :
    IsMapOf (members.map fun member => (member.1, member.2.order.1)) (Value.map (textEntries members)).order.1 := by
  have keys : ∀ key ∈ (textEntries members).map Prod.fst, key.isKey :=
    List.forall_mem_map.2 (List.forall_mem_map.2 fun _ _ => rfl)
  have values : ∀ entry ∈ textEntries members, entry.2.order.2 = none :=
    List.forall_mem_map.2 fun member mem => (h member mem).order
  rw [Value.order_map keys values]
  refine ⟨_, rfl, (sortEntries_perm_map _).trans (.of_eq ?_)⟩
  simp [textEntries, keyed, Function.comp_def]

/-- A plain value that is in order already. -/
structure Simple (depth : Nat) (value : Value) : Prop where
  ordered : value.order = (value, none)
  plain : Plain depth value

theorem simple_atom (atom : value.isAtom) : Simple depth value :=
  ⟨Value.order_atom atom, .atom depth atom⟩

theorem simple_ofInt64 (n : Int64) : Simple depth (.ofInt64 n) := by
  refine simple_atom ?_
  unfold Value.ofInt64
  split <;> rfl

theorem simple_texts (content : List String) : Simple (depth + 1) (.array (content.map .text)) where
  ordered := by
    rw [Value.order_array (List.forall_mem_map.2 fun _ _ => rfl), List.map_map]
    rfl
  plain := .array (List.forall_mem_map.2 fun _ _ => .atom depth rfl)

theorem simple_optionalMember {α : Type} {name : String} {write : α → Value} {content : Option α}
    (h : ∀ a, Simple depth (write a)) :
    ∀ member ∈ optionalMember name write content, Simple depth member.2 := by
  cases content with
  | none => exact fun _ mem => nomatch mem
  | some a => exact List.forall_mem_singleton.2 (h a)

variable (same : value = .map (textEntries members)) (simple : ∀ member ∈ members, Simple depth member.2)

include same simple

theorem isMapOf_order_of_simple : IsMapOf members value.order.1 := by
  have ordered : (members.map fun member => (member.1, member.2.order.1)) = members := by
    refine (List.map_congr_left fun member mem => ?_).trans (List.map_id _)
    rw [(simple member mem).ordered, id]
  have arranged := isMapOf_order fun member mem => (simple member mem).plain.orderable
  rwa [ordered, ← same] at arranged

theorem plain_of_simple : Plain (depth + 1) value := by
  rw [same]
  exact .map (List.forall_mem_map.2 fun _ _ => rfl) (List.forall_mem_map.2 fun member mem => (simple member mem).plain)

end Cbor

/-! ## Entities as parts -/

section Entities

variable (depth : Nat)

theorem RelyingPartyEntity.simple_members (rp : RelyingPartyEntity) :
    ∀ member ∈ rp.members, Simple depth member.2 :=
  List.forall_mem_cons.2 ⟨simple_atom rfl, simple_optionalMember fun _ => simple_atom rfl⟩

theorem UserEntity.simple_members (user : UserEntity) : ∀ member ∈ user.members, Simple depth member.2 :=
  List.forall_mem_cons.2 ⟨simple_atom rfl, List.forall_mem_append.2
    ⟨simple_optionalMember fun _ => simple_atom rfl, simple_optionalMember fun _ => simple_atom rfl⟩⟩

theorem CredentialParameters.simple_members (parameters : CredentialParameters) :
    ∀ member ∈ parameters.members, Simple depth member.2 :=
  List.forall_mem_cons.2 ⟨simple_atom rfl, List.forall_mem_singleton.2 (simple_ofInt64 _)⟩

theorem CredentialDescriptor.simple_members (credential : CredentialDescriptor) :
    ∀ member ∈ credential.members, Simple (depth + 1) member.2 :=
  List.forall_mem_cons.2 ⟨simple_atom rfl, List.forall_mem_cons.2
    ⟨simple_atom rfl, simple_optionalMember simple_texts⟩⟩

theorem Dictionary.toValue_eq {α : Type} (write : α → Value) (d : Dictionary String α) :
    d.toValue write = .map (textEntries (d.entries.map fun pair => (pair.1, write pair.2))) := by
  rw [textEntries, List.map_map]
  rfl

theorem Dictionary.simple_flags (d : Dictionary String Bool) :
    ∀ member ∈ d.entries.map fun pair => (pair.1, Value.bool pair.2), Simple depth member.2 :=
  List.forall_mem_map.2 fun _ _ => simple_atom rfl

theorem arrives_entities {α : Type} {write : α → Value} {members : α → List (String × Value)}
    {read : Value → Option α} (same : ∀ a, write a = .map (textEntries (members a)))
    (simple : ∀ a, ∀ member ∈ members a, Simple depth member.2)
    (reads : ∀ {a value}, IsMapOf (members a) value → read value = some a) (list : List α) :
    ∃ items, (Value.array (list.map write)).order.1 = .array items ∧
      List.Forall₂ (fun a item => read item = some a ∧ IsMapOf (members a) item) list items := by
  have orders : ∀ item ∈ list.map write, item.order.2 = none :=
    List.forall_mem_map.2 fun a _ => (plain_of_simple (same a) (simple a)).orderable.order
  refine ⟨_, congrArg Prod.fst (Value.order_array orders), ?_⟩
  rw [List.map_map, List.forall₂_map_right_iff, List.forall₂_same]
  intro a _
  have arrived := isMapOf_order_of_simple (same a) (simple a)
  exact ⟨reads arrived, arrived⟩

end Entities

/-! ## Arguments -/

/-- What a field of a set of parameters holds. -/
inductive Argument where
  | bytes (content : Bytes)
  | text (content : String)
  | unsigned (n : UInt64)
  | bool (b : Bool)
  | relyingParty (rp : RelyingPartyEntity)
  | user (user : UserEntity)
  | algorithms (list : List CredentialParameters)
  | credentials (list : List CredentialDescriptor)
  | options (options : Dictionary String Bool)
  | extensions (extensions : Dictionary String Value)
  | embedded (value : Value)

namespace Argument

/-- The value that an argument is written as. -/
def toValue : Argument → Value
  | bytes content => .bytes content
  | text content => .text content
  | unsigned n => .unsigned n
  | bool b => .bool b
  | relyingParty rp => rp.toValue
  | user content => content.toValue
  | algorithms list => .array (list.map CredentialParameters.toValue)
  | credentials list => .array (list.map CredentialDescriptor.toValue)
  | options content => content.toValue .bool
  | extensions content => content.toValue id
  | embedded value => value

/-- An argument with sizes that a head can hold, in which the values of the caller can be parts of a request. -/
def Fits : Argument → Prop
  | embedded value => Embeddable (maxDepth - 1) value
  | extensions content =>
    Sized (content.toValue id) ∧ ∀ entry ∈ content.entries, Embeddable (maxDepth - 2) entry.2
  | argument => Sized argument.toValue

/-- The values as which an argument arrives. Entities are read as what they were, and have no member that was absent;
dictionaries have the same entries. -/
def Arrives : Argument → Value → Prop
  | bytes content, value => value = .bytes content
  | text content, value => value = .text content
  | unsigned n, value => value = .unsigned n
  | bool b, value => value = .bool b
  | relyingParty rp, value => RelyingPartyEntity.ofValue? value = some rp ∧ IsMapOf rp.members value
  | user content, value => UserEntity.ofValue? value = some content ∧ IsMapOf content.members value
  | algorithms list, value =>
    ∃ items, value = .array items ∧ List.Forall₂ (fun parameters item =>
      CredentialParameters.ofValue? item = some parameters ∧ IsMapOf parameters.members item) list items
  | credentials list, value =>
    ∃ items, value = .array items ∧ List.Forall₂ (fun credential item =>
      CredentialDescriptor.ofValue? item = some credential ∧ IsMapOf credential.members item) list items
  | options content, value => IsMapOf (content.entries.map fun (name, b) => (name, .bool b)) value
  | extensions content, value =>
    ∃ received, IsMapOf received value ∧ List.Forall₂ (fun given received =>
      received.1 = given.1 ∧ Arranged given.2 received.2) content.entries received
  | embedded given, value => Arranged given value

variable {argument : Argument}

theorem plain_toValue (depth : Nat) (argument : Argument) : (∃ value, argument = .embedded value) ∨
    (∃ content, argument = .extensions content) ∨ Plain (depth + 3) argument.toValue := by
  cases argument with
  | bytes | text | unsigned | bool => exact .inr (.inr (.atom _ rfl))
  | relyingParty rp => exact .inr (.inr (plain_of_simple rp.toValue_eq (rp.simple_members (depth + 2))))
  | user content => exact .inr (.inr (plain_of_simple content.toValue_eq (content.simple_members (depth + 2))))
  | algorithms list =>
      refine .inr (.inr (.array (List.forall_mem_map.2 fun parameters _ => ?_)))
      exact plain_of_simple parameters.toValue_eq (parameters.simple_members (depth + 1))
  | credentials list =>
      refine .inr (.inr (.array (List.forall_mem_map.2 fun credential _ => ?_)))
      exact plain_of_simple credential.toValue_eq (credential.simple_members depth)
  | options content =>
      refine .inr (.inr (plain_of_simple (Dictionary.toValue_eq .bool content) ?_))
      exact Dictionary.simple_flags (depth + 2) content
  | extensions content => exact .inr (.inl ⟨content, rfl⟩)
  | embedded value => exact .inl ⟨value, rfl⟩

theorem Fits.sized (h : argument.Fits) : Sized argument.toValue := by
  cases argument with
  | embedded value => exact (Embeddable.readable h).sized
  | extensions content => exact And.left h
  | _ => exact h

theorem Fits.orderable (h : argument.Fits) : Orderable argument.toValue := by
  rcases plain_toValue 252 argument with ⟨value, rfl⟩ | ⟨content, rfl⟩ | plain
  · exact Embeddable.orderable h
  · exact .map (List.forall_mem_map.2 (List.forall_mem_map.2 fun _ _ => rfl))
      (List.forall_mem_map.2 fun entry mem => (And.right h entry mem).orderable)
  · exact plain.orderable

theorem Fits.readable (h : argument.Fits) : Readable (maxDepth - 1) argument.toValue := by
  rcases plain_toValue 252 argument with ⟨value, rfl⟩ | ⟨content, rfl⟩ | plain
  · exact Embeddable.readable h
  · cases And.left h with
    | map size keys _ =>
        refine .map size (fun entry mem => ?_) (List.forall_mem_map.2 fun entry mem => ?_)
        · obtain ⟨name, -, rfl⟩ := List.mem_map.1 mem
          exact (keys _ mem).readable_atom rfl
        · exact (And.right h entry mem).readable
  · exact plain.readable h.sized

theorem Fits.arrives (h : argument.Fits) : argument.Arrives argument.toValue.order.1 := by
  cases argument with
  | bytes | text | unsigned | bool => rfl
  | relyingParty rp =>
      have arrived := isMapOf_order_of_simple rp.toValue_eq (rp.simple_members 0)
      exact ⟨RelyingPartyEntity.ofValue?_of_isMapOf arrived, arrived⟩
  | user content =>
      have arrived := isMapOf_order_of_simple content.toValue_eq (content.simple_members 0)
      exact ⟨UserEntity.ofValue?_of_isMapOf arrived, arrived⟩
  | algorithms list =>
      exact arrives_entities 0 CredentialParameters.toValue_eq (CredentialParameters.simple_members 0)
        CredentialParameters.ofValue?_of_isMapOf list
  | credentials list =>
      exact arrives_entities 1 CredentialDescriptor.toValue_eq (CredentialDescriptor.simple_members 0)
        CredentialDescriptor.ofValue?_of_isMapOf list
  | options content =>
      exact isMapOf_order_of_simple (Dictionary.toValue_eq .bool content) (Dictionary.simple_flags 0 content)
  | extensions content =>
      have each : ∀ member ∈ content.entries, Embeddable (maxDepth - 2) member.2 := And.right h
      refine ⟨_, isMapOf_order fun member mem => (each member mem).orderable, ?_⟩
      rw [List.forall₂_map_right_iff, List.forall₂_same]
      exact fun member mem => ⟨rfl, (each member mem).arranged⟩
  | embedded value => exact Embeddable.arranged h

end Argument

/-! ## Fields that are there -/

section Present

variable {α β : Type} {items : List (UInt64 × Option α)} {key : UInt64} {a : α}

/-- The items that are not absent, each with its key. -/
def present (items : List (UInt64 × Option α)) : List (UInt64 × α) :=
  items.filterMap fun item => item.2.map fun a => (item.1, a)

theorem mem_present : (key, a) ∈ present items ↔ (key, some a) ∈ items := by
  simp only [present, List.mem_filterMap, Option.map_eq_some_iff, Prod.mk.injEq]
  constructor
  · rintro ⟨⟨key, content⟩, mem, a, rfl, rfl, rfl⟩
    exact mem
  · exact fun mem => ⟨(key, some a), mem, a, rfl, rfl, rfl⟩

theorem sublist_keys_present (items : List (UInt64 × Option α)) :
    ((present items).map Prod.fst).Sublist (items.map Prod.fst) := by
  induction items with
  | nil => exact .slnil
  | cons item items ih =>
      obtain ⟨key, content⟩ := item
      cases content with
      | none => exact ih.cons key
      | some a => exact ih.cons_cons key

theorem present_map (f : α → β) (items : List (UInt64 × Option α)) :
    (present items).map (fun item => (item.1, f item.2)) = present (items.map fun item => (item.1, item.2.map f)) := by
  induction items with
  | nil => rfl
  | cons item items ih =>
      obtain ⟨key, content⟩ := item
      cases content with
      | none => exact ih
      | some a => exact congrArg ((key, f a) :: ·) ih

theorem present_append_none (front : List (UInt64 × Option α)) (key : UInt64) (back : List (UInt64 × Option α)) :
    present (front ++ (key, none) :: back) = present (front ++ back) := by
  simp [present]

theorem length_present (items : List (UInt64 × Option α)) :
    (present items).length = items.countP (·.2.isSome) := by
  induction items with
  | nil => rfl
  | cons item items ih =>
      obtain ⟨key, content⟩ := item
      cases content <;> simp [present, ← ih]

end Present

namespace Request

/-- Items with their positions, counted from the given one. Absent ones have a position too. -/
def counted {α : Type} (position : UInt64) : List (Option α) → List (UInt64 × Option α)
  | [] => []
  | item :: items => (position, item) :: counted (position + 1) items

theorem numbered_eq {α : Type} (position : UInt64) (items : List (Option α)) :
    numbered position items = present (counted position items) := by
  induction items generalizing position with
  | nil => rfl
  | cons item items ih =>
      cases item with
      | none => exact ih (position + 1)
      | some a => exact congrArg ((position, a) :: ·) (ih (position + 1))

theorem pack_eq (arguments : List (Option Value)) :
    pack arguments = .map (entriesOf (present (counted 1 arguments))) := by
  rw [pack, packFrom_eq, numbered_eq]

/-- A map with ascending keys goes over the wire: each of its values arrives, in order. -/
theorem fields_arrive (command : Command) {fields : List (UInt64 × Value)}
    (ascending : fields.Pairwise fun a b => a.1 < b.1) (bound : fields.length < 2 ^ 64)
    (orderable : ∀ field ∈ fields, Orderable field.2)
    (readable : ∀ field ∈ fields, Readable (maxDepth - 1) field.2) :
    ∃ data, encode command (some (.map (entriesOf fields))) = .ok (command.byte :: data) ∧
      Response.ofBytes data = .ok ⟨fields.map fun field => (field.1, field.2.order.1)⟩ := by
  have canonical := canonical_entriesOf ascending fun field mem => (orderable field mem).order
  refine ⟨_, encode_of_canonical command canonical, ?_⟩
  let received := fields.map fun field => (field.1, field.2.order.1)
  have short : received.length < 2 ^ 64 := by simpa [received] using bound
  have arrived := ofBytes_write_entriesOf short (List.forall_mem_map.2 fun field mem =>
    (orderable field mem).reordered.readable (readable field mem))
  rwa [write_entriesOf, List.map_map] at arrived

end Request

/-! ## Sets of parameters -/

/-- The sets of parameters that calls have. -/
inductive Parameters where
  | creation (parameters : CreationParameters)
  | assertion (parameters : AssertionParameters)
  | pin (parameters : PinParameters)
  | bio (parameters : BioParameters)
  | subCommand (parameters : SubCommandParameters)

namespace Parameters

/-- The map that parameters are written as. -/
def toValue : Parameters → Value
  | creation parameters => parameters.toValue
  | assertion parameters => parameters.toValue
  | pin parameters => parameters.toValue
  | bio parameters => parameters.toValue
  | subCommand parameters => parameters.toValue

/-- The fields of the parameters under their keys. -/
def fields : Parameters → List (UInt64 × Option Argument)
  | creation parameters => [
    (0x01, some (.bytes parameters.clientDataHash)),
    (0x02, parameters.rp.map .relyingParty),
    (0x03, parameters.user.map .user),
    (0x04, some (.algorithms parameters.algorithms)),
    (0x05, parameters.excludeList.map .credentials),
    (0x06, parameters.extensions.map .extensions),
    (0x07, parameters.options.map .options),
    (0x08, parameters.pinUvAuthParam.map .bytes),
    (0x09, parameters.pinUvAuthProtocol.map fun b => .unsigned b.toUInt64),
    (0x0A, parameters.enterpriseAttestation.map .unsigned)]
  | assertion parameters => [
    (0x01, some (.text parameters.rpId)),
    (0x02, some (.bytes parameters.clientDataHash)),
    (0x03, parameters.allowList.map .credentials),
    (0x04, parameters.extensions.map .extensions),
    (0x05, parameters.options.map .options),
    (0x06, parameters.pinUvAuthParam.map .bytes),
    (0x07, parameters.pinUvAuthProtocol.map fun b => .unsigned b.toUInt64)]
  | pin parameters => [
    (0x01, parameters.pinUvAuthProtocol.map fun b => .unsigned b.toUInt64),
    (0x02, some (.unsigned parameters.subCommand.toUInt64)),
    (0x03, parameters.keyAgreement.map .embedded),
    (0x04, parameters.pinUvAuthParam.map .bytes),
    (0x05, parameters.newPinEnc.map .bytes),
    (0x06, parameters.pinHashEnc.map .bytes),
    (0x09, parameters.permissions.map fun b => .unsigned b.toUInt64),
    (0x0A, parameters.rpId.map .text)]
  | bio parameters => [
    (0x01, parameters.modality.map fun b => .unsigned b.toUInt64),
    (0x02, parameters.subCommand.map fun b => .unsigned b.toUInt64),
    (0x03, parameters.subCommandParams.map .embedded),
    (0x04, parameters.pinUvAuthProtocol.map fun b => .unsigned b.toUInt64),
    (0x05, parameters.pinUvAuthParam.map .bytes),
    (0x06, parameters.getModality.map .bool)]
  | subCommand parameters => [
    (0x01, some (.unsigned parameters.subCommand.toUInt64)),
    (0x02, parameters.subCommandParams.map .embedded),
    (0x03, parameters.pinUvAuthProtocol.map fun b => .unsigned b.toUInt64),
    (0x04, parameters.pinUvAuthParam.map .bytes)]

theorem ascending_fields (p : Parameters) : (p.fields.map Prod.fst).Pairwise (· < ·) := by
  cases p <;> simp [fields]

theorem length_fields_le (p : Parameters) : p.fields.length ≤ 10 := by
  cases p <;> simp [fields]

theorem toValue_eq (p : Parameters) :
    p.toValue = .map (entriesOf ((present p.fields).map fun field => (field.1, field.2.toValue))) := by
  have embedded (value : Option Value) : value.map (Argument.toValue ∘ .embedded) = value := Option.map_id'
  rw [present_map]
  cases p with
  | pin p =>
      -- Two positions are taken by nothing.
      rw [toValue, PinParameters.toValue, Request.pack_eq]
      simp only [Request.counted, fields, List.map_cons, List.map_nil, Option.map_map, Option.map_some, embedded]
      refine congrArg (fun items => Value.map (entriesOf items)) ?_
      exact (present_append_none [_, _, _, _, _, _] _ _).trans (present_append_none [_, _, _, _, _, _] _ _)
  | _ p =>
      simp only [toValue, CreationParameters.toValue, AssertionParameters.toValue, BioParameters.toValue,
        SubCommandParameters.toValue, Request.pack_eq, Request.counted, fields, List.map_cons, List.map_nil,
        Option.map_map, Option.map_some, embedded]
      rfl

/-! ## What is received -/

/-- The response that is read from a request: the fields that were given, each in order. -/
def received (p : Parameters) : Response :=
  ⟨(present p.fields).map fun field => (field.1, field.2.toValue.order.1)⟩

variable {p : Parameters} {key : UInt64}

theorem ascending_received (p : Parameters) : (p.received.entries.map Prod.fst).Pairwise (· < ·) := by
  have keys : p.received.entries.map Prod.fst = (present p.fields).map Prod.fst := by
    simp [received, Function.comp_def]
  exact keys ▸ p.ascending_fields.sublist (sublist_keys_present p.fields)

theorem get?_received {argument : Argument} (given : (key, some argument) ∈ p.fields) :
    p.received.get? key = some argument.toValue.order.1 := by
  refine (lookup_eq_some_iff_mem (p.ascending_received.imp UInt64.ne_of_lt)).2 ?_
  exact List.mem_map_of_mem (mem_present.2 given)

theorem get?_received_of_absent (absent : ∀ argument, (key, some argument) ∉ p.fields) :
    p.received.get? key = none := by
  refine List.lookup_eq_none_iff.2 fun entry mem => bne_iff_ne.2 ?_
  rintro rfl
  obtain ⟨field, inside, rfl⟩ := List.mem_map.1 mem
  exact absent field.2 (mem_present.1 inside)

theorem exists_request (command : Command) (fits : ∀ key argument, (key, some argument) ∈ p.fields → argument.Fits) :
    ∃ data, Request.encode command (some p.toValue) = .ok (command.byte :: data) ∧
      Response.ofBytes data = .ok p.received := by
  let sent := (present p.fields).map fun field => (field.1, field.2.toValue)
  have each (field : UInt64 × Argument) (mem : field ∈ present p.fields) : field.2.Fits :=
    fits field.1 field.2 (mem_present.1 mem)
  have ascending : sent.Pairwise fun a b => a.1 < b.1 :=
    List.pairwise_map.2 (List.pairwise_map.1 (p.ascending_fields.sublist (sublist_keys_present p.fields)))
  have short : sent.length ≤ 10 := by
    rw [List.length_map, length_present]
    exact Nat.le_trans List.countP_le_length p.length_fields_le
  obtain ⟨data, written, read⟩ := Request.fields_arrive command ascending (by omega)
    (List.forall_mem_map.2 fun field mem => (each field mem).orderable)
    (List.forall_mem_map.2 fun field mem => (each field mem).readable)
  rw [List.map_map] at read
  exact ⟨data, p.toValue_eq ▸ written, read⟩

/-- The parameters of a command go over the wire without loss. Under the key of each field that was given arrives what
it was given, and nothing under the key of a field that was not, nor under any other key. -/
theorem parameters_arrive (command : Command) (p : Parameters)
    (fits : ∀ key argument, (key, some argument) ∈ p.fields → argument.Fits) :
    ∃ data response, Request.encode command (some p.toValue) = .ok (command.byte :: data) ∧
      Response.ofBytes data = .ok response ∧
      (∀ key argument, (key, some argument) ∈ p.fields →
        ∃ value, response.get? key = some value ∧ argument.Arrives value) ∧
      (∀ key, (key, none) ∈ p.fields → response.get? key = none) ∧
      (∀ key, key ∉ p.fields.map Prod.fst → response.get? key = none) ∧
      response.size = p.fields.countP (·.2.isSome) := by
  obtain ⟨data, written, read⟩ := exists_request command fits
  refine ⟨data, p.received, written, read, fun key argument given => ?_, fun key absent => ?_, fun key other => ?_, ?_⟩
  · exact ⟨_, get?_received given, (fits key argument given).arrives⟩
  · refine get?_received_of_absent fun argument given => ?_
    cases List.inj_on_of_nodup_map (p.ascending_fields.imp UInt64.ne_of_lt) absent given rfl
  · exact get?_received_of_absent fun argument given => other (List.mem_map_of_mem given)
  · rw [Response.size, received, List.length_map, length_present]

/-- The input of an extension, with a text and a number for keys. -/
def extensionInput : Value :=
  .map [(.text "zone", .null), (.unsigned 1, .bool true)]

theorem embeddable_extensionInput : Embeddable (maxDepth - 2) extensionInput := by
  have orderable : Orderable extensionInput := by
    refine .map (by simp [Value.isKey]) ?_
    simp only [List.forall_mem_cons, List.not_mem_nil, false_implies, implies_true]
    exact ⟨.atom rfl, .atom rfl, trivial⟩
  refine ⟨⟨_, orderable.canonical⟩, ?_⟩
  change Readable (253 + 1) extensionInput
  refine .map (by decide) ?_ ?_ <;> simp only [List.forall_mem_cons, List.not_mem_nil, false_implies, implies_true]
  · exact ⟨.text _ (by decide), .unsigned _ 1, trivial⟩
  · exact ⟨.null _, .bool _ true, trivial⟩

/-- Parameters with an empty list, a nameless relying party and an extension. -/
def enrolling : CreationParameters where
  clientDataHash := List.replicate 32 0x5A
  rp := some ⟨"example.com", none⟩
  algorithms := [.publicKey (-7)]
  excludeList := some []
  extensions := some ⟨[("credBlob", extensionInput)], by simp⟩
  pinUvAuthProtocol := some 2

theorem fits_enrolling : ∀ key argument, (key, some argument) ∈ (creation enrolling).fields → argument.Fits := by
  intro key argument mem
  simp [fields, enrolling] at mem
  rcases mem with ⟨-, rfl⟩ | ⟨-, rfl⟩ | ⟨-, rfl⟩ | ⟨-, rfl⟩ | ⟨-, rfl⟩ | ⟨-, rfl⟩
  · exact .bytes (by decide)
  · exact .map (by decide) (List.forall_mem_singleton.2 (.text (by decide)))
      (List.forall_mem_singleton.2 (.text (by decide)))
  · refine .array (by decide) (List.forall_mem_singleton.2 (.map (by decide) ?_ ?_)) <;>
      simp only [List.forall_mem_cons, List.not_mem_nil, false_implies, implies_true]
    · exact ⟨.text (by decide), .text (by decide), trivial⟩
    · exact ⟨.text (by decide), .negative 6, trivial⟩
  · exact .array (by decide) (fun _ mem => nomatch mem)
  · refine ⟨.map (by decide) (List.forall_mem_singleton.2 (.text (by decide))) ?_, ?_⟩
    · exact List.forall_mem_singleton.2 embeddable_extensionInput.readable.sized
    · exact List.forall_mem_singleton.2 embeddable_extensionInput
  · exact .unsigned 2

theorem enrolling_arrives : (∀ key argument, (key, some argument) ∈ (creation enrolling).fields → argument.Fits) ∧
    ∃ data response, Request.encode .makeCredential (some enrolling.toValue) = .ok (0x01 :: data) ∧
      Response.ofBytes data = .ok response ∧ response.size = 6 ∧ response.get? 0x03 = none ∧
      response.get? 0x05 = some (.array []) ∧ response.get? 0x09 = some (.unsigned 2) ∧ response.get? 0x0B = none := by
  obtain ⟨data, response, written, read, given, absent, other, size⟩ :=
    parameters_arrive .makeCredential (creation enrolling) fits_enrolling
  refine ⟨fits_enrolling, data, response, written, read, size, absent 0x03 (by simp [fields, enrolling]), ?_, ?_,
    other 0x0B (by simp [fields])⟩
  · obtain ⟨_, found, items, rfl, each⟩ := given 0x05 (.credentials []) (by simp [fields, enrolling])
    cases each
    exact found
  · obtain ⟨_, found, rfl⟩ := given 0x09 (.unsigned 2) (by simp [fields, enrolling])
    exact found

end Parameters

end SecurityKey
