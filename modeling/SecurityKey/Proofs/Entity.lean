import SecurityKey.Entity
import SecurityKey.Proofs.Cbor.Value
import SecurityKey.Proofs.Entries

/-!
# Entities as maps

An entity is read from the map it is written as, in whatever order its members stand there. What is read as a type and
algorithm has one member of the right kind under each of the two names.
-/

namespace SecurityKey

open Cbor (Value)

namespace Entity

variable {α : Type} {known : List String} {members : List (String × Value)} {entries : List (Value × Value)}
  {read : Value → Option α} {write : α → Value} {content : Option α} {name : String} {value : Value}

/-! ## Members -/

/-- The entries of a map with these members, in their order. -/
def textEntries (members : List (String × Value)) : List (Value × Value) :=
  members.map fun member => (.text member.1, member.2)

/-- A map of the members, in any order. -/
def IsMapOf (members : List (String × Value)) (value : Value) : Prop :=
  ∃ entries, value = .map entries ∧ entries.Perm (textEntries members)

/-- A member that is there when its content is. -/
def optionalMember (name : String) (write : α → Value) (content : Option α) : List (String × Value) :=
  (content.map fun a => (name, write a)).toList

theorem member?_eq : member? name write content = textEntries (optionalMember name write content) := by
  cases content <;> rfl

@[simp] theorem lookup_optionalMember_self : (optionalMember name write content).lookup name = content.map write := by
  cases content with
  | none => rfl
  | some a => exact List.lookup_cons_self

theorem lookup_optionalMember_of_ne {other : String} (differs : other ≠ name) :
    (optionalMember name write content).lookup other = none := by
  cases content with
  | none => rfl
  | some a => simp [optionalMember, List.lookup_cons, beq_eq_false_iff_ne.2 differs]

/-- The member that an entry stands for, if its key is a text. -/
def named? (entry : Value × Value) : Option (String × Value) :=
  (untagged entry.1).text?.map fun name => (name, entry.2)

theorem named?_eq_some_iff {entry : Value × Value} {member : String × Value} :
    named? entry = some member ↔ untagged entry.1 = .text member.1 ∧ entry.2 = member.2 := by
  obtain ⟨name, value⟩ := member
  simp [named?, Value.text?_eq_some_iff]

theorem members?_eq_some_iff : members? known value = some members ↔ ∃ entries, untagged value = .map entries ∧
    entries.mapM named? = some members ∧ ∀ name ∈ known, members.countP (·.1 == name) ≤ 1 := by
  have each : (fun entry => (untagged entry.1).text?.bind fun name => some (name, entry.2)) = named? := by
    funext entry
    exact (Option.map_eq_bind ..).symm
  simp only [members?, Option.bind_eq_bind, Option.pure_def, Option.bind_eq_some_iff, each,
    Option.ite_none_right_eq_some, Option.some.injEq, List.all_eq_true, decide_eq_true_eq, Value.map?_eq_some_iff]
  constructor
  · rintro ⟨entries, isMap, members', read, once, rfl⟩
    exact ⟨entries, isMap, read, once⟩
  · rintro ⟨entries, isMap, read, once⟩
    exact ⟨entries, isMap, members, read, once, rfl⟩

theorem members?_of_isMapOf (known : List String) (distinct : (members.map Prod.fst).Nodup)
    (h : IsMapOf members value) : ∃ members', members? known value = some members' ∧
      ∀ name, members'.lookup name = members.lookup name := by
  obtain ⟨entries, rfl, perm⟩ := h
  have read : (textEntries members).mapM named? = some members := by
    rw [mapM_eq_some_iff, textEntries, List.map_map]
    rfl
  obtain ⟨members', read', perm'⟩ := exists_mapM_of_perm perm read
  have distinct' : (members'.map Prod.fst).Nodup := (perm'.map Prod.fst).nodup_iff.2 distinct
  refine ⟨members', members?_eq_some_iff.2 ⟨entries, rfl, read', fun name _ => ?_⟩,
    fun name => lookup_perm perm' distinct'⟩
  have count := List.nodup_iff_count_le_one.1 distinct' name
  rwa [List.count, List.countP_map] at count

theorem optional_of_lookup (write : α → Value) (found : members.lookup name = content.map write)
    (reads : ∀ a, write a ≠ .null ∧ read (write a) = some a) : optional read members name = some content := by
  unfold optional
  rw [found]
  cases content with
  | none => rfl
  | some a =>
      obtain ⟨notNull, same⟩ := reads a
      rw [Option.map_some]
      cases written : write a with
      | null => exact absurd written notNull
      | _ => exact congrArg (Option.map some) (written ▸ same)

/-! ## Kinds of members -/

theorem integer?_ofInt64 (n : Int64) : integer? (.ofInt64 n) = some n := by
  have plain : integer? (.ofInt64 n) = (Value.ofInt64 n).signed? := by
    unfold Value.ofInt64
    split <;> rfl
  rw [plain, Value.signed?_ofInt64]

/-- One entry of a map has the name, and its value is of the kind. -/
def HasMember (entries : List (Value × Value)) (name : String) (fits : Value → Prop) : Prop :=
  ∃ before key value after, entries = before ++ (key, value) :: after ∧ untagged key = .text name ∧ fits value ∧
    ∀ entry ∈ before ++ after, untagged entry.1 ≠ .text name

theorem HasMember.imp {fits fits' : Value → Prop} (h : HasMember entries name fits)
    (weaker : ∀ value, fits value → fits' value) : HasMember entries name fits' := by
  obtain ⟨before, key, value, after, same, named, fit, others⟩ := h
  exact ⟨before, key, value, after, same, named, weaker value fit, others⟩

/-- No entry of a map has the name. -/
def Lacks (entries : List (Value × Value)) (name : String) : Prop :=
  ∀ entry ∈ entries, untagged entry.1 ≠ .text name

/-- A map has a member with the name whose value holds the content; when there is no content, the member is null or
not there. -/
inductive MayHaveMember (entries : List (Value × Value)) (name : String) (holds : α → Value → Prop) :
    Option α → Prop where
  | lacking : Lacks entries name → MayHaveMember entries name holds none
  | null : HasMember entries name (· = .null) → MayHaveMember entries name holds none
  | holding {a : α} : HasMember entries name (holds a) → MayHaveMember entries name holds (some a)

theorem lacks_iff (found : entries.mapM named? = some members) :
    Lacks entries name ↔ name ∉ members.map Prod.fst := by
  have same := mapM_eq_some_iff.1 found
  constructor
  · intro lacks mem
    obtain ⟨member, inside, rfl⟩ := List.mem_map.1 mem
    obtain ⟨entry, inside, read⟩ := List.mem_map.1 (same ▸ List.mem_map_of_mem inside)
    exact lacks entry inside (named?_eq_some_iff.1 read).1
  · intro others entry mem named
    have read : named? entry = some (name, entry.2) := named?_eq_some_iff.2 ⟨named, rfl⟩
    obtain ⟨member, inside, same⟩ := List.mem_map.1 (same ▸ List.mem_map_of_mem mem)
    cases Option.some.inj (same.trans read)
    exact others (List.mem_map_of_mem inside)

theorem countP_eq_zero_iff : members.countP (·.1 == name) = 0 ↔ name ∉ members.map Prod.fst := by
  simp only [List.countP_eq_zero, beq_iff_eq, List.mem_map, not_exists, not_and]

theorem countP_split (front back : List (String × Value)) :
    (front ++ (name, value) :: back).countP (·.1 == name) = (front ++ back).countP (·.1 == name) + 1 := by
  simp only [List.countP_append, List.countP_cons, beq_self_eq_true, if_true, Nat.add_assoc]

theorem hasMember_iff {fits : Value → Prop} (found : entries.mapM named? = some members) :
    HasMember entries name fits ↔
      members.countP (·.1 == name) ≤ 1 ∧ ∃ value, members.lookup name = some value ∧ fits value := by
  -- The entries and what is read from them are split at the same place.
  constructor
  · rintro ⟨before, key, value, after, rfl, named, fit, others⟩
    obtain ⟨front, member, back, rfl, here, found'⟩ := split_of_mapM found
    cases (named?_eq_some_iff.2 ⟨named, rfl⟩ : named? (key, value) = some (name, value)).symm.trans here
    have single : name ∉ (front ++ back).map Prod.fst := (lacks_iff found').1 others
    have none : front.lookup name = none :=
      lookup_eq_none_iff.2 fun mem => single (by rw [List.map_append]; exact List.mem_append_left _ mem)
    refine ⟨Nat.le_of_eq ?_, value, ?_, fit⟩
    · rw [countP_split, countP_eq_zero_iff.2 single]
    · rw [List.lookup_append, none, Option.none_or, List.lookup_cons_self]
  · rintro ⟨once, value, found', fit⟩
    obtain ⟨front, back, rfl, -⟩ := List.lookup_eq_some_iff.1 found'
    rw [countP_split] at once
    have single : name ∉ (front ++ back).map Prod.fst :=
      countP_eq_zero_iff.1 (Nat.le_zero.1 (Nat.le_of_succ_le_succ once))
    obtain ⟨before, ⟨key, value⟩, after, rfl, here, found''⟩ := mapM_split found
    obtain ⟨named, rfl⟩ := named?_eq_some_iff.1 here
    exact ⟨before, key, value, after, rfl, named, fit, (lacks_iff found'').2 single⟩

theorem require_iff {holds : α → Value → Prop} {a : α} (found : entries.mapM named? = some members)
    (reads : ∀ value a, read value = some a ↔ holds a value) :
    members.countP (·.1 == name) ≤ 1 ∧ require read members name = some a ↔ HasMember entries name (holds a) := by
  simp only [hasMember_iff found, require, Option.bind_eq_some_iff, reads]

theorem optional_iff {holds : α → Value → Prop} (found : entries.mapM named? = some members)
    (reads : ∀ value a, read value = some a ↔ holds a value) (notNull : read .null = none) :
    members.countP (·.1 == name) ≤ 1 ∧ optional read members name = some content ↔
      MayHaveMember entries name holds content := by
  have lacking : Lacks entries name ↔ members.lookup name = none := (lacks_iff found).trans lookup_eq_none_iff.symm
  unfold optional
  constructor
  · rintro ⟨once, h⟩
    split at h
    case h_1 none =>
      cases h
      exact .lacking (lacking.2 none)
    case h_2 isNull =>
      cases h
      exact .null ((hasMember_iff found).2 ⟨once, _, isNull, rfl⟩)
    case h_3 value _ isValue =>
      obtain ⟨a, isRead, rfl⟩ := Option.map_eq_some_iff.1 h
      exact .holding ((hasMember_iff found).2 ⟨once, value, isValue, (reads value a).1 isRead⟩)
  · intro h
    cases h with
    | lacking lacks =>
      have none := countP_eq_zero_iff.2 ((lacks_iff found).1 lacks)
      exact ⟨none ▸ Nat.zero_le 1, by rw [lacking.1 lacks]⟩
    | null null =>
      obtain ⟨once, value, isNull, rfl⟩ := (hasMember_iff found).1 null
      exact ⟨once, by rw [isNull]⟩
    | @holding a holding =>
      obtain ⟨once, value, isValue, holds⟩ := (hasMember_iff found).1 holding
      refine ⟨once, ?_⟩
      have isRead := (reads value a).2 holds
      rw [isValue]
      cases value with
      | null => cases notNull.symm.trans isRead
      | _ => exact congrArg (Option.map some) isRead

/-! ## What entities hold -/

/-- A value is this text, under any number of tags. -/
def HoldsText (text : String) (value : Value) : Prop := untagged value = .text text

/-- A value is this byte string, under any number of tags. -/
def HoldsBytes (bytes : Bytes) (value : Value) : Prop := untagged value = .bytes bytes

/-- A value is an array of these texts, under any number of tags, as each of them may be. -/
def HoldsTexts (texts : List String) (value : Value) : Prop :=
  ∃ items, untagged value = .array items ∧ items.map untagged = texts.map .text

/-- A map with text keys. -/
def IsEntity (value : Value) (entries : List (Value × Value)) : Prop :=
  untagged value = .map entries ∧ ∀ entry ∈ entries, ∃ name, untagged entry.1 = .text name

theorem text?_iff (value : Value) (text : String) : text? value = some text ↔ HoldsText text value :=
  Value.text?_eq_some_iff

theorem bytes?_iff (value : Value) (bytes : Bytes) : bytes? value = some bytes ↔ HoldsBytes bytes value :=
  Value.bytes?_eq_some_iff

theorem texts?_iff (value : Value) (texts : List String) : texts? value = some texts ↔ HoldsTexts texts value := by
  simp only [texts?, HoldsTexts, Option.bind_eq_bind, Option.bind_eq_some_iff, Value.array?_eq_some_iff,
    mapM_eq_some_iff]
  refine exists_congr fun items => and_congr_right fun _ => ?_
  have each (item : Value) (text : String) : item.text? = some text ↔ item = .text text := Value.text?_eq_some_iff
  rw [← map_eq_map_some_iff each, List.map_map]
  rfl

theorem isEntity_iff {entries : List (Value × Value)} :
    IsEntity value entries ↔ untagged value = .map entries ∧ ∃ members, entries.mapM named? = some members := by
  refine and_congr_right fun _ => ⟨fun keys => exists_mapM fun entry mem => ?_, ?_⟩
  · obtain ⟨name, isText⟩ := keys entry mem
    exact ⟨(name, entry.2), named?_eq_some_iff.2 ⟨isText, rfl⟩⟩
  · rintro ⟨members, found⟩ entry mem
    obtain ⟨member, -, named⟩ := List.mem_map.1 (mapM_eq_some_iff.1 found ▸ List.mem_map_of_mem mem)
    exact ⟨member.1, (named?_eq_some_iff.1 named.symm).1⟩

/-- Members are asked for among those of a map with text keys, where each of the known names occurs once at most. -/
theorem members?_bind_eq_some_iff {next : List (String × Value) → Option α} {a : α} :
    (members? known value).bind next = some a ↔ ∃ entries members, IsEntity value entries ∧
      entries.mapM named? = some members ∧ (∀ name ∈ known, members.countP (·.1 == name) ≤ 1) ∧
      next members = some a := by
  simp only [Option.bind_eq_some_iff, members?_eq_some_iff]
  constructor
  · rintro ⟨members, ⟨entries, isMap, found, once⟩, continued⟩
    exact ⟨entries, members, isEntity_iff.2 ⟨isMap, members, found⟩, found, once, continued⟩
  · rintro ⟨entries, members, isEntity, found, once, continued⟩
    exact ⟨members, ⟨entries, isEntity.1, found, once⟩, continued⟩

end Entity

open Entity

/-! ## The entities -/

variable {value : Value}

namespace RelyingPartyEntity

variable {rp : RelyingPartyEntity}

/-- The members of the map that a relying party is written as. -/
def members (rp : RelyingPartyEntity) : List (String × Value) :=
  ("id", .text rp.id) :: optionalMember "name" .text rp.name

theorem toValue_eq (rp : RelyingPartyEntity) : rp.toValue = .map (textEntries rp.members) := by
  rw [toValue, member?_eq]
  rfl

theorem nodup_members (rp : RelyingPartyEntity) : (rp.members.map Prod.fst).Nodup := by
  cases rp with
  | mk id name => cases name <;> simp [members, optionalMember]

theorem ofValue?_of_isMapOf (h : IsMapOf rp.members value) : ofValue? value = some rp := by
  obtain ⟨read, found, same⟩ := members?_of_isMapOf ["id", "name"] rp.nodup_members h
  have id : require text? read "id" = some rp.id := by
    rw [require, same]
    rfl
  have name : optional text? read "name" = some rp.name := by
    refine optional_of_lookup .text ?_ fun a => ⟨Value.noConfusion, rfl⟩
    simp [same, members, List.lookup_cons]
  simp [ofValue?, found, id, name]

/-- A value holds a relying party: a map with its ID and, when it has one, its name. Other members may hold anything. -/
def HeldBy (rp : RelyingPartyEntity) (value : Value) : Prop :=
  ∃ entries, IsEntity value entries ∧ HasMember entries "id" (HoldsText rp.id) ∧
    MayHaveMember entries "name" HoldsText rp.name

theorem ofValue?_eq_some_iff : ofValue? value = some rp ↔ rp.HeldBy value := by
  rw [ofValue?, Option.bind_eq_bind, members?_bind_eq_some_iff]
  simp only [Option.bind_eq_bind, Option.bind_eq_some_iff, Option.pure_def, Option.some.injEq, List.forall_mem_cons,
    List.not_mem_nil, false_implies, implies_true, and_true]
  constructor
  · rintro ⟨entries, members, isEntity, found, ⟨onceId, onceName⟩, id, isId, name, isName, rfl⟩
    exact ⟨entries, isEntity, (require_iff found text?_iff).1 ⟨onceId, isId⟩,
      (optional_iff found text?_iff rfl).1 ⟨onceName, isName⟩⟩
  · rintro ⟨entries, isEntity, id, name⟩
    obtain ⟨-, members, found⟩ := isEntity_iff.1 isEntity
    obtain ⟨onceId, isId⟩ := (require_iff found text?_iff).2 id
    obtain ⟨onceName, isName⟩ := (optional_iff found text?_iff rfl).2 name
    exact ⟨entries, members, isEntity, found, ⟨onceId, onceName⟩, _, isId, _, isName, rfl⟩

end RelyingPartyEntity

namespace UserEntity

variable {user : UserEntity}

/-- The members of the map that a user is written as. -/
def members (user : UserEntity) : List (String × Value) :=
  ("id", .bytes user.id) ::
    (optionalMember "name" .text user.name ++ optionalMember "displayName" .text user.displayName)

theorem toValue_eq (user : UserEntity) : user.toValue = .map (textEntries user.members) := by
  simp [toValue, member?_eq, members, textEntries]

theorem nodup_members (user : UserEntity) : (user.members.map Prod.fst).Nodup := by
  cases user with
  | mk id name displayName => cases name <;> cases displayName <;> simp [members, optionalMember]

theorem ofValue?_of_isMapOf (h : IsMapOf user.members value) : ofValue? value = some user := by
  obtain ⟨read, found, same⟩ := members?_of_isMapOf ["id", "name", "displayName"] user.nodup_members h
  have id : require bytes? read "id" = some user.id := by
    rw [require, same]
    rfl
  have name : optional text? read "name" = some user.name := by
    refine optional_of_lookup .text ?_ fun a => ⟨Value.noConfusion, rfl⟩
    simp [same, members, List.lookup_cons, List.lookup_append, lookup_optionalMember_of_ne]
  have displayName : optional text? read "displayName" = some user.displayName := by
    refine optional_of_lookup .text ?_ fun a => ⟨Value.noConfusion, rfl⟩
    simp [same, members, List.lookup_cons, List.lookup_append, lookup_optionalMember_of_ne]
  simp [ofValue?, found, id, name, displayName]

/-- A value holds a user: a map with its ID and those of its names that it has. Other members may hold anything. -/
def HeldBy (user : UserEntity) (value : Value) : Prop :=
  ∃ entries, IsEntity value entries ∧ HasMember entries "id" (HoldsBytes user.id) ∧
    MayHaveMember entries "name" HoldsText user.name ∧ MayHaveMember entries "displayName" HoldsText user.displayName

theorem ofValue?_eq_some_iff : ofValue? value = some user ↔ user.HeldBy value := by
  rw [ofValue?, Option.bind_eq_bind, members?_bind_eq_some_iff]
  simp only [Option.bind_eq_bind, Option.bind_eq_some_iff, Option.pure_def, Option.some.injEq, List.forall_mem_cons,
    List.not_mem_nil, false_implies, implies_true, and_true]
  constructor
  · rintro ⟨entries, members, isEntity, found, ⟨onceId, onceName, onceDisplay⟩, id, isId, name, isName, displayName,
      isDisplay, rfl⟩
    exact ⟨entries, isEntity, (require_iff found bytes?_iff).1 ⟨onceId, isId⟩,
      (optional_iff found text?_iff rfl).1 ⟨onceName, isName⟩,
      (optional_iff found text?_iff rfl).1 ⟨onceDisplay, isDisplay⟩⟩
  · rintro ⟨entries, isEntity, id, name, displayName⟩
    obtain ⟨-, members, found⟩ := isEntity_iff.1 isEntity
    obtain ⟨onceId, isId⟩ := (require_iff found bytes?_iff).2 id
    obtain ⟨onceName, isName⟩ := (optional_iff found text?_iff rfl).2 name
    obtain ⟨onceDisplay, isDisplay⟩ := (optional_iff found text?_iff rfl).2 displayName
    exact ⟨entries, members, isEntity, found, ⟨onceId, onceName, onceDisplay⟩, _, isId, _, isName, _, isDisplay, rfl⟩

end UserEntity

namespace CredentialDescriptor

variable {credential : CredentialDescriptor}

/-- The members of the map that a credential is written as. -/
def members (credential : CredentialDescriptor) : List (String × Value) :=
  ("type", .text credential.type) :: ("id", .bytes credential.id) ::
    optionalMember "transports" (fun names => .array (names.map .text)) credential.transports

theorem toValue_eq (credential : CredentialDescriptor) :
    credential.toValue = .map (textEntries credential.members) := by
  rw [toValue, member?_eq]
  rfl

theorem nodup_members (credential : CredentialDescriptor) : (credential.members.map Prod.fst).Nodup := by
  cases credential with
  | mk type id transports => cases transports <;> simp [members, optionalMember]

theorem ofValue?_of_isMapOf (h : IsMapOf credential.members value) : ofValue? value = some credential := by
  obtain ⟨read, found, same⟩ := members?_of_isMapOf ["type", "id", "transports"] credential.nodup_members h
  have type : require text? read "type" = some credential.type := by
    rw [require, same]
    rfl
  have id : require bytes? read "id" = some credential.id := by
    rw [require, same]
    rfl
  have transports : optional texts? read "transports" = some credential.transports := by
    refine optional_of_lookup (fun names => .array (names.map .text)) ?_ fun names =>
      ⟨Value.noConfusion, ?_⟩
    · simp [same, members, List.lookup_cons]
    · simp only [texts?, untagged, Value.array?, Option.bind_eq_bind, Option.bind_some]
      rw [mapM_eq_some_iff, List.map_map]
      rfl
  simp [ofValue?, found, type, id, transports]

/-- A value holds a credential: a map with its type and ID and, when it has them, its transports. Other members may hold
anything. -/
def HeldBy (credential : CredentialDescriptor) (value : Value) : Prop :=
  ∃ entries, IsEntity value entries ∧ HasMember entries "type" (HoldsText credential.type) ∧
    HasMember entries "id" (HoldsBytes credential.id) ∧
    MayHaveMember entries "transports" HoldsTexts credential.transports

theorem ofValue?_eq_some_iff : ofValue? value = some credential ↔ credential.HeldBy value := by
  rw [ofValue?, Option.bind_eq_bind, members?_bind_eq_some_iff]
  simp only [Option.bind_eq_bind, Option.bind_eq_some_iff, Option.pure_def, Option.some.injEq, List.forall_mem_cons,
    List.not_mem_nil, false_implies, implies_true, and_true]
  constructor
  · rintro ⟨entries, members, isEntity, found, ⟨onceType, onceId, onceTransports⟩, type, isType, id, isId, transports,
      isTransports, rfl⟩
    exact ⟨entries, isEntity, (require_iff found text?_iff).1 ⟨onceType, isType⟩,
      (require_iff found bytes?_iff).1 ⟨onceId, isId⟩,
      (optional_iff found texts?_iff rfl).1 ⟨onceTransports, isTransports⟩⟩
  · rintro ⟨entries, isEntity, type, id, transports⟩
    obtain ⟨-, members, found⟩ := isEntity_iff.1 isEntity
    obtain ⟨onceType, isType⟩ := (require_iff found text?_iff).2 type
    obtain ⟨onceId, isId⟩ := (require_iff found bytes?_iff).2 id
    obtain ⟨onceTransports, isTransports⟩ := (optional_iff found texts?_iff rfl).2 transports
    exact ⟨entries, members, isEntity, found, ⟨onceType, onceId, onceTransports⟩, _, isType, _, isId, _, isTransports,
      rfl⟩

end CredentialDescriptor

namespace CredentialParameters

variable {parameters : CredentialParameters}

/-- The members of the map that a type and algorithm are written as. -/
def members (parameters : CredentialParameters) : List (String × Value) :=
  [("type", .text parameters.type), ("alg", .ofInt64 parameters.algorithm)]

theorem toValue_eq (parameters : CredentialParameters) : parameters.toValue = .map (textEntries parameters.members) :=
  rfl

theorem ofValue?_of_isMapOf (h : IsMapOf parameters.members value) : ofValue? value = some parameters := by
  have distinct : (parameters.members.map Prod.fst).Nodup := by simp [members]
  obtain ⟨read, found, same⟩ := members?_of_isMapOf ["type", "alg"] distinct h
  have type : require text? read "type" = some parameters.type := by
    rw [require, same]
    rfl
  have algorithm : require integer? read "alg" = some parameters.algorithm := by
    rw [require, same]
    exact integer?_ofInt64 parameters.algorithm
  simp [ofValue?, found, type, algorithm]

/-- A map that is read as a type and algorithm: its keys are texts, and under each of the two names it has one member,
which is a text and an integer of 64 bits. -/
def Fits (value : Value) : Prop :=
  ∃ entries, untagged value = .map entries ∧ (∀ entry ∈ entries, ∃ name, untagged entry.1 = .text name) ∧
    HasMember entries "type" (fun value => ∃ type, untagged value = .text type) ∧
    HasMember entries "alg" (fun value => ∃ algorithm, integer? value = some algorithm)

theorem fits_of_ofValue? (h : ofValue? value = some parameters) : Fits value := by
  simp only [ofValue?, Option.bind_eq_bind, Option.bind_eq_some_iff, members?_eq_some_iff] at h
  obtain ⟨members, ⟨entries, isMap, read, once⟩, type, isText, algorithm, isInteger, -⟩ := h
  refine ⟨entries, isMap, (isEntity_iff.2 ⟨isMap, members, read⟩).2, ?_, ?_⟩
  · exact ((require_iff read fun _ _ => Value.text?_eq_some_iff).1 ⟨once "type" (by simp), isText⟩).imp
      fun value fits => ⟨type, fits⟩
  · exact ((require_iff read fun _ _ => Iff.rfl).1 ⟨once "alg" (by simp), isInteger⟩).imp
      fun value fits => ⟨algorithm, fits⟩

end CredentialParameters

end SecurityKey
