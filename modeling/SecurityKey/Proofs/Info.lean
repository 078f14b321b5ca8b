import SecurityKey.Proofs.Dictionary
import SecurityKey.Proofs.Entity
import SecurityKey.Proofs.Readers
import SecurityKey.Proofs.Request

/-!
# Reading the info

The info of an authenticator is read from a map with one field for each of its parts. Each field has its own key and
shape; a part whose field is left out has the value of the standard, and a field of another shape is never passed over.
-/

namespace SecurityKey

open Cbor (Value entriesOf)

open Entity (IsMapOf textEntries)

namespace Info

open Response (field_of_none field_eq_ok_iff field_bind_of_none field_bind_eq_ok_iff list_of_none list_eq_ok_iff)

/-! ## Fields -/

/-- The info of an authenticator that reports nothing. -/
def standard : Info := {}

/-- The keys of the parts that an info has. -/
def keys : List UInt64 :=
  [0x01, 0x02, 0x03, 0x04, 0x05, 0x06, 0x07, 0x08, 0x09, 0x0A, 0x0B, 0x0C, 0x0D, 0x0E, 0x0F, 0x10, 0x11, 0x12, 0x13,
    0x14, 0x15]

/-- What the field of a part may hold. -/
inductive Shape where
  | texts
  | unsigneds
  | unsigned
  | bool
  | aaguid
  | options
  | certifications
  | algorithms

/-- The shape of the field under a key. -/
def shape? : UInt64 → Option Shape
  | 0x01 | 0x02 | 0x09 => some .texts
  | 0x03 => some .aaguid
  | 0x04 => some .options
  | 0x06 | 0x15 => some .unsigneds
  | 0x0A => some .algorithms
  | 0x0C => some .bool
  | 0x13 => some .certifications
  | 0x05 | 0x07 | 0x08 | 0x0B | 0x0D | 0x0E | 0x0F | 0x10 | 0x11 | 0x12 | 0x14 => some .unsigned
  | _ => none

/-- A value has the shape, with every item of a list and every entry of a map. -/
def Shape.Fits : Shape → Value → Prop
  | texts, value => ∃ items, value = .array items ∧ ∀ item ∈ items, ∃ content, item = .text content
  | unsigneds, value => ∃ items, value = .array items ∧ ∀ item ∈ items, ∃ n, item = .unsigned n
  | unsigned, value => ∃ n, value = .unsigned n
  | bool, value => ∃ b, value = .bool b
  | aaguid, value => ∃ content, value = .bytes content ∧ content.length = 16
  | options, value =>
    ∃ entries, value = .map entries ∧ ∀ entry ∈ entries, (∃ name, entry.1 = .text name) ∧ ∃ b, entry.2 = .bool b
  | certifications, value =>
    ∃ entries, value = .map entries ∧ ∀ entry ∈ entries, (∃ name, entry.1 = .text name) ∧ ∃ n, entry.2 = .unsigned n
  | algorithms, value => ∃ items, value = .array items ∧ ∀ item ∈ items, CredentialParameters.Fits item

/-- What is read from a field, for each shape. -/
inductive Content where
  | texts (content : List String)
  | unsigneds (content : List UInt64)
  | unsigned (n : UInt64)
  | bool (b : Bool)
  | aaguid (content : Bytes)
  | options (content : Dictionary String Bool)
  | certifications (content : Dictionary String UInt64)
  | algorithms (content : List CredentialParameters)

/-- What the field under a key holds; nothing for a part that is not known. -/
def content (info : Info) : UInt64 → Option Content
  | 0x01 => some (.texts info.versions)
  | 0x02 => some (.texts info.extensions)
  | 0x03 => some (.aaguid info.aaguid)
  | 0x04 => some (.options info.options)
  | 0x05 => some (.unsigned info.maxMsgSize)
  | 0x06 => some (.unsigneds info.pinUvAuthProtocols)
  | 0x07 => info.maxCredentialCountInList.map .unsigned
  | 0x08 => info.maxCredentialIdLength.map .unsigned
  | 0x09 => some (.texts info.transports)
  | 0x0A => some (.algorithms info.algorithms)
  | 0x0B => info.maxSerializedLargeBlobArray.map .unsigned
  | 0x0C => some (.bool info.forcePinChange)
  | 0x0D => some (.unsigned info.minPinLength)
  | 0x0E => info.firmwareVersion.map .unsigned
  | 0x0F => info.maxCredBlobLength.map .unsigned
  | 0x10 => info.maxRpidsForSetMinPinLength.map .unsigned
  | 0x11 => info.preferredPlatformUvAttempts.map .unsigned
  | 0x12 => info.uvModality.map .unsigned
  | 0x13 => some (.certifications info.certifications)
  | 0x14 => info.remainingDiscoverableCredentials.map .unsigned
  | 0x15 => some (.unsigneds info.vendorPrototypeConfigCommands)
  | _ => none

namespace Content

/-- The shape that a content is read from. -/
def shape : Content → Shape
  | texts _ => .texts
  | unsigneds _ => .unsigneds
  | unsigned _ => .unsigned
  | bool _ => .bool
  | aaguid _ => .aaguid
  | options _ => .options
  | certifications _ => .certifications
  | algorithms _ => .algorithms

/-- The values that a content is written as. The entries of a map stand in any order. -/
def Written : Content → Value → Prop
  | texts content, value => value = .array (content.map .text)
  | unsigneds content, value => value = .array (content.map .unsigned)
  | unsigned n, value => value = .unsigned n
  | bool b, value => value = .bool b
  | aaguid content, value => value = .bytes content
  | options content, value => IsMapOf (content.entries.map fun (name, b) => (name, .bool b)) value
  | certifications content, value => IsMapOf (content.entries.map fun (name, n) => (name, .unsigned n)) value
  | algorithms content, value =>
    ∃ items, value = .array items ∧ List.Forall₂ (fun parameters item =>
      IsMapOf [("type", .text parameters.type), ("alg", .ofInt64 parameters.algorithm)] item) content items

/-- The values that a content is read from. -/
def ReadFrom : Content → Value → Prop
  | aaguid content, value => value = .bytes content ∧ content.length = 16
  | options content, value =>
    ∃ pairs, value = .map (pairs.map fun (name, b) => (.text name, .bool b)) ∧ .ofList pairs = content
  | certifications content, value =>
    ∃ pairs, value = .map (pairs.map fun (name, n) => (.text name, .unsigned n)) ∧ .ofList pairs = content
  | algorithms content, value =>
    ∃ items, value = .array items ∧ items.map CredentialParameters.ofValue? = content.map some
  | content, value => content.Written value

end Content

/-- Fields that report an info: they hold its parts under their keys, and leave out only parts that have the value of
the standard. Nothing is said about fields under other keys. -/
structure IsReported (info : Info) (fields : List (UInt64 × Value)) : Prop where
  written : ∀ field ∈ fields, field.1 ∈ keys → ∃ content, info.content field.1 = some content ∧ content.Written field.2
  omitted : ∀ key ∈ keys, key ∉ fields.map Prod.fst → info.content key = standard.content key

/-- An info that holds what is read under a key. -/
def Agrees (info : Info) (response : Response) (key : UInt64) : Prop :=
  match response.get? key with
  | none => info.content key = standard.content key
  | some value => ∃ content, info.content key = some content ∧ content.ReadFrom value

/-! ## One field -/

section Agrees

variable {info : Info} {response : Response} {key : UInt64} {α : Type} {read : Value → Option α} {write : α → Value}

/-- A field agrees when its reader gives the part, from a value or by default. -/
theorem agrees_iff (reader : Result α) {a default : α} (mk : α → Content) (injective : mk a = mk default → a = default)
    (here : info.content key = some (mk a)) (otherwise : standard.content key = some (mk default))
    (absent : response.get? key = none → reader = .ok default)
    (present : ∀ value, response.get? key = some value → (reader = .ok a ↔ (mk a).ReadFrom value)) :
    info.Agrees response key ↔ reader = .ok a := by
  unfold Agrees
  cases found : response.get? key with
  | none =>
    simp only [here, otherwise, absent found, Option.some.injEq, Except.ok.injEq]
    exact ⟨fun same => (injective same).symm, fun same => same ▸ rfl⟩
  | some value => simp only [here, present value found, Option.some.injEq, exists_eq_left']

theorem agrees_list {content : List α} {name : String} (mk : List α → Content)
    (inverse : ∀ value a, read value = some a ↔ value = write a)
    (reads : ∀ value, (mk content).ReadFrom value ↔ value = .array (content.map write))
    (injective : mk content = mk [] → content = []) (here : info.content key = some (mk content))
    (otherwise : standard.content key = some (mk [])) :
    info.Agrees response key ↔ response.list name read key = .ok content := by
  refine agrees_iff _ mk injective here otherwise list_of_none fun value found => ?_
  rw [list_eq_ok_iff found, reads]
  simp only [map_eq_map_some_iff inverse, exists_eq_right]

theorem agrees_texts {content : List String} (here : info.content key = some (.texts content))
    (otherwise : standard.content key = some (.texts [])) :
    info.Agrees response key ↔ response.texts key = .ok content :=
  agrees_list .texts (fun _ _ => Value.text?_eq_some_iff) (fun _ => .rfl) Content.texts.inj here otherwise

theorem agrees_unsigneds {content : List UInt64} (here : info.content key = some (.unsigneds content))
    (otherwise : standard.content key = some (.unsigneds [])) :
    info.Agrees response key ↔ response.unsigneds key = .ok content :=
  agrees_list .unsigneds (fun _ _ => Value.unsigned?_eq_some_iff) (fun _ => .rfl) Content.unsigneds.inj here otherwise

theorem agrees_getD {a default : α} {kind : Kind α} (mk : α → Content)
    (reads : ∀ value, (mk a).ReadFrom value ↔ kind.read value = some a)
    (injective : mk a = mk default → a = default) (here : info.content key = some (mk a))
    (otherwise : standard.content key = some (mk default)) :
    info.Agrees response key ↔ ∃ option, response.field kind key = .ok option ∧ option.getD default = a := by
  have reader : (do return (← response.field kind key).getD default : Result α) = .ok a ↔
      ∃ option, response.field kind key = .ok option ∧ option.getD default = a := by
    simp only [Result.bind_eq_ok_iff, pure, Except.pure, Except.ok.injEq]
  rw [← reader]
  refine agrees_iff _ mk injective here otherwise (fun absent => field_bind_of_none absent _) fun value found => ?_
  rw [field_bind_eq_ok_iff found, reads]
  simp [pure, Except.pure]

theorem agrees_unsigned {n : UInt64} (default : UInt64) (here : info.content key = some (.unsigned n))
    (otherwise : standard.content key = some (.unsigned default)) :
    info.Agrees response key ↔ ∃ option, response.field .unsigned key = .ok option ∧ option.getD default = n :=
  agrees_getD .unsigned (fun _ => Value.unsigned?_eq_some_iff.symm) Content.unsigned.inj here otherwise

theorem agrees_bool {b : Bool} (default : Bool) (here : info.content key = some (.bool b))
    (otherwise : standard.content key = some (.bool default)) :
    info.Agrees response key ↔ ∃ option, response.field .bool key = .ok option ∧ option.getD default = b :=
  agrees_getD .bool (fun _ => Value.bool?_eq_some_iff.symm) Content.bool.inj here otherwise

theorem agrees_optional {option : Option UInt64} (here : info.content key = option.map .unsigned)
    (otherwise : standard.content key = none) :
    info.Agrees response key ↔ response.field .unsigned key = .ok option := by
  unfold Agrees
  cases found : response.get? key with
  | none => simp [here, otherwise, field_of_none found, eq_comm]
  | some value => simp [here, field_eq_ok_iff found, Kind.unsigned, Value.unsigned?_eq_some_iff, Content.ReadFrom,
      Content.Written, and_comm]

theorem agrees_aaguid {content : Bytes} (here : info.content key = some (.aaguid content))
    (otherwise : standard.content key = some (.aaguid (List.replicate 16 0))) :
    info.Agrees response key ↔ aaguidField response key = .ok content := by
  refine agrees_iff _ .aaguid Content.aaguid.inj here otherwise (fun absent => field_bind_of_none absent _)
    fun value found => ?_
  rw [aaguidField, field_bind_eq_ok_iff found]
  simp only [Kind.bytes, Value.bytes?_eq_some_iff, Content.ReadFrom]
  constructor
  · rintro ⟨content', isBytes, taken⟩
    split at taken
    · cases taken
      exact ⟨isBytes, ‹_›⟩
    · cases taken
  · rintro ⟨isBytes, length⟩
    exact ⟨content, isBytes, if_pos length⟩

theorem agrees_algorithms {content : List CredentialParameters} (here : info.content key = some (.algorithms content))
    (otherwise : standard.content key = some (.algorithms [])) :
    info.Agrees response key ↔ ∃ option, response.field .array key = .ok option ∧
      (option.getD []).mapM (Entity.read CredentialParameters.ofValue?) = .ok content := by
  have items (items : List Value) : items.mapM (Entity.read CredentialParameters.ofValue?) = .ok content ↔
      items.map CredentialParameters.ofValue? = content.map some := Result.mapM_ofOption_eq_ok_iff
  rw [← Result.bind_eq_ok_iff]
  refine agrees_iff _ .algorithms Content.algorithms.inj here otherwise (fun absent => field_bind_of_none absent _)
    fun value found => ?_
  rw [field_bind_eq_ok_iff found]
  simp only [Kind.array, Value.array?_eq_some_iff, Option.getD_some, items, Content.ReadFrom]

/-- An entry of a dictionary, if its key is a text and its value can be read. -/
def pair? (read : Value → Option α) (entry : Value × Value) : Option (String × α) := do
  return (← entry.1.text?, ← read entry.2)

theorem dictionary_eq (name : String) (entries : List (Value × Value)) : dictionary name read entries = do
    return .ofList (← entries.mapM fun entry =>
      Result.ofOption (.entryKind name entry.1 entry.2) (pair? read entry)) := by
  unfold dictionary
  congr
  funext entry
  obtain ⟨key, value⟩ := entry
  dsimp only [pair?]
  cases key.text? <;> cases read value <;> rfl

theorem dictionary_eq_ok_iff {name : String} {entries : List (Value × Value)} {content : Dictionary String α}
    (inverse : ∀ value a, read value = some a ↔ value = write a) : dictionary name read entries = .ok content ↔
      ∃ pairs, entries = pairs.map (fun pair => (.text pair.1, write pair.2)) ∧ .ofList pairs = content := by
  have pair (entry : Value × Value) (pair : String × α) :
      pair? read entry = some pair ↔ entry = (.text pair.1, write pair.2) := by
    simp [pair?, Option.bind_eq_some_iff, Value.text?_eq_some_iff, inverse, Prod.ext_iff]
  simp only [dictionary_eq, Result.bind_eq_ok_iff, Result.mapM_ofOption_eq_ok_iff, map_eq_map_some_iff pair, pure,
    Except.pure, Except.ok.injEq]

theorem agrees_dictionary {name : String} {content : Dictionary String α} {mk : Dictionary String α → Content}
    (inverse : ∀ value a, read value = some a ↔ value = write a)
    (reads : ∀ value, (mk content).ReadFrom value ↔
      ∃ pairs, value = .map (pairs.map fun pair => (.text pair.1, write pair.2)) ∧ .ofList pairs = content)
    (injective : mk content = mk .empty → content = .empty) (here : info.content key = some (mk content))
    (otherwise : standard.content key = some (mk .empty)) :
    info.Agrees response key ↔ dictionaryField response name read key = .ok content := by
  refine agrees_iff _ mk injective here otherwise (fun absent => field_bind_of_none absent _) fun value found => ?_
  rw [dictionaryField, field_bind_eq_ok_iff found, reads]
  simp only [Kind.map, Value.map?_eq_some_iff, dictionary_eq_ok_iff inverse]
  constructor
  · rintro ⟨_, isMap, pairs, rfl, made⟩
    exact ⟨pairs, isMap, made⟩
  · rintro ⟨pairs, isMap, made⟩
    exact ⟨_, isMap, pairs, rfl, made⟩

theorem agrees_options {content : Dictionary String Bool} (here : info.content key = some (.options content))
    (otherwise : standard.content key = some (.options .empty)) :
    info.Agrees response key ↔ dictionaryField response "options" Value.bool? key = .ok content :=
  agrees_dictionary (fun _ _ => Value.bool?_eq_some_iff) (fun _ => .rfl) Content.options.inj here otherwise

theorem agrees_certifications {content : Dictionary String UInt64}
    (here : info.content key = some (.certifications content))
    (otherwise : standard.content key = some (.certifications .empty)) :
    info.Agrees response key ↔ dictionaryField response "certifications" Value.unsigned? key = .ok content :=
  agrees_dictionary (fun _ _ => Value.unsigned?_eq_some_iff) (fun _ => .rfl) Content.certifications.inj here otherwise

end Agrees

/-! ## All fields -/

theorem ofResponse_eq_ok_iff {info : Info} {response : Response} :
    ofResponse response = .ok info ↔ ∀ key ∈ keys, info.Agrees response key := by
  constructor
  · intro h
    simp only [ofResponse, Result.bind_eq_ok_iff, pure, Except.pure, Except.ok.injEq] at h
    -- The fields that can be refused on their own account are read first.
    obtain ⟨_, h03, _, h04, _, h13, _, h0A, _, algorithms, _, h01, _, h02, _, h05, _, h06, _, h07, _, h08, _, h09, _,
      h0B, _, h0C, _, h0D, _, h0E, _, h0F, _, h10, _, h11, _, h12, _, h14, _, h15, rfl⟩ := h
    simp only [keys, List.forall_mem_cons, List.not_mem_nil, false_implies, implies_true, and_true]
    exact ⟨(agrees_texts rfl rfl).2 h01, (agrees_texts rfl rfl).2 h02, (agrees_aaguid rfl rfl).2 h03,
      (agrees_options rfl rfl).2 h04, (agrees_unsigned 1024 rfl rfl).2 ⟨_, h05, rfl⟩,
      (agrees_unsigneds rfl rfl).2 h06, (agrees_optional rfl rfl).2 h07, (agrees_optional rfl rfl).2 h08,
      (agrees_texts rfl rfl).2 h09, (agrees_algorithms rfl rfl).2 ⟨_, h0A, algorithms⟩,
      (agrees_optional rfl rfl).2 h0B, (agrees_bool false rfl rfl).2 ⟨_, h0C, rfl⟩,
      (agrees_unsigned 4 rfl rfl).2 ⟨_, h0D, rfl⟩, (agrees_optional rfl rfl).2 h0E, (agrees_optional rfl rfl).2 h0F,
      (agrees_optional rfl rfl).2 h10, (agrees_optional rfl rfl).2 h11, (agrees_optional rfl rfl).2 h12,
      (agrees_certifications rfl rfl).2 h13, (agrees_optional rfl rfl).2 h14, (agrees_unsigneds rfl rfl).2 h15⟩
  · intro h
    simp only [keys, List.forall_mem_cons, List.not_mem_nil, false_implies, implies_true, and_true] at h
    obtain ⟨h01, h02, h03, h04, h05, h06, h07, h08, h09, h0A, h0B, h0C, h0D, h0E, h0F, h10, h11, h12, h13, h14,
      h15⟩ := h
    obtain ⟨maxMsgSize, h05, size⟩ := (agrees_unsigned 1024 rfl rfl).1 h05
    obtain ⟨items, h0A, algorithms⟩ := (agrees_algorithms rfl rfl).1 h0A
    obtain ⟨forcePinChange, h0C, change⟩ := (agrees_bool false rfl rfl).1 h0C
    obtain ⟨minPinLength, h0D, length⟩ := (agrees_unsigned 4 rfl rfl).1 h0D
    simp only [ofResponse, (agrees_texts rfl rfl).1 h01, (agrees_texts rfl rfl).1 h02, (agrees_aaguid rfl rfl).1 h03,
      (agrees_options rfl rfl).1 h04, h05, size, (agrees_unsigneds rfl rfl).1 h06, (agrees_optional rfl rfl).1 h07,
      (agrees_optional rfl rfl).1 h08, (agrees_texts rfl rfl).1 h09, h0A, algorithms, (agrees_optional rfl rfl).1 h0B,
      h0C, change, h0D, length, (agrees_optional rfl rfl).1 h0E, (agrees_optional rfl rfl).1 h0F,
      (agrees_optional rfl rfl).1 h10, (agrees_optional rfl rfl).1 h11, (agrees_optional rfl rfl).1 h12,
      (agrees_certifications rfl rfl).1 h13, (agrees_optional rfl rfl).1 h14, (agrees_unsigneds rfl rfl).1 h15, bind,
      Except.bind, pure, Except.pure]

/-! ## Reported infos -/

theorem ofList_of_isMapOf {α : Type} {write : α → Value} {content : Dictionary String α} {value : Value}
    (h : IsMapOf (content.entries.map fun pair => (pair.1, write pair.2)) value) :
    ∃ pairs, value = .map (pairs.map fun pair => (.text pair.1, write pair.2)) ∧ .ofList pairs = content := by
  obtain ⟨entries, rfl, perm⟩ := h
  rw [textEntries, List.map_map] at perm
  obtain ⟨pairs, rfl, perm'⟩ := exists_perm_map perm
  exact ⟨pairs, rfl, Dictionary.ofList_of_perm perm'⟩

theorem Content.Written.readFrom {content : Content} {value : Value} (h : content.Written value)
    (length : ∀ aaguid, content = .aaguid aaguid → aaguid.length = 16) : content.ReadFrom value := by
  cases content with
  | texts | unsigneds | unsigned | bool => exact h
  | aaguid aaguid => exact ⟨h, length aaguid rfl⟩
  | options content => exact ofList_of_isMapOf h
  | certifications content => exact ofList_of_isMapOf h
  | algorithms content =>
    obtain ⟨items, rfl, each⟩ := h
    refine ⟨items, rfl, ?_⟩
    induction each with
    | nil => rfl
    | cons first _ ih =>
      simp [CredentialParameters.ofValue?_of_isMapOf first, ih]

theorem Content.ReadFrom.fits {content : Content} {value : Value} (h : content.ReadFrom value) :
    content.shape.Fits value := by
  cases content with
  | texts content => exact ⟨_, h, by simp⟩
  | unsigneds content => exact ⟨_, h, by simp⟩
  | unsigned n => exact ⟨n, h⟩
  | bool b => exact ⟨b, h⟩
  | aaguid content => exact ⟨content, h⟩
  | options content =>
    obtain ⟨pairs, rfl, -⟩ := h
    exact ⟨_, rfl, List.forall_mem_map.2 fun pair _ => ⟨⟨pair.1, rfl⟩, pair.2, rfl⟩⟩
  | certifications content =>
    obtain ⟨pairs, rfl, -⟩ := h
    exact ⟨_, rfl, List.forall_mem_map.2 fun pair _ => ⟨⟨pair.1, rfl⟩, pair.2, rfl⟩⟩
  | algorithms content =>
    obtain ⟨items, rfl, same⟩ := h
    refine ⟨items, rfl, fun item mem => ?_⟩
    obtain ⟨parameters, -, read⟩ := List.mem_map.1 (same ▸ List.mem_map_of_mem mem)
    exact CredentialParameters.fits_of_ofValue? read.symm

theorem shape?_of_content {info : Info} {key : UInt64} {content : Content} (h : info.content key = some content) :
    shape? key = some content.shape := by
  unfold Info.content at h
  split at h
  case h_22 => cases h
  all_goals
    first
    | cases h
      rfl
    | obtain ⟨n, -, rfl⟩ := Option.map_eq_some_iff.1 h
      rfl

theorem mem_keys_of_shape? {key : UInt64} {shape : Shape} (h : shape? key = some shape) : key ∈ keys := by
  unfold shape? at h
  split at h
  case h_22 => cases h
  all_goals decide

theorem eq_aaguid_of_content {info : Info} {key : UInt64} {aaguid : Bytes}
    (h : info.content key = some (.aaguid aaguid)) : aaguid = info.aaguid := by
  unfold Info.content at h
  split at h <;> simp at h
  exact h.symm

variable {info : Info} {response : Response} {fields : List (UInt64 × Value)} {key : UInt64} {value : Value}
  {shape : Shape}

theorem IsReported.agrees (h : info.IsReported fields) (length : info.aaguid.length = 16) (known : key ∈ keys) :
    info.Agrees ⟨fields⟩ key := by
  unfold Agrees
  cases found : (Response.mk fields).get? key with
  | none => exact h.omitted key known (lookup_eq_none_iff.1 found)
  | some value =>
    obtain ⟨content, here, written⟩ := h.written (key, value) (mem_of_lookup_eq_some found) known
    refine ⟨content, here, written.readFrom ?_⟩
    rintro aaguid rfl
    rwa [eq_aaguid_of_content here]

theorem IsReported.ofResponse_eq (h : info.IsReported fields) (length : info.aaguid.length = 16) :
    ofResponse ⟨fields⟩ = .ok info :=
  ofResponse_eq_ok_iff.2 fun _ known => h.agrees length known

theorem ofResponse_eq_error (distinct : (response.entries.map Prod.fst).Nodup) (mem : (key, value) ∈ response.entries)
    (known : shape? key = some shape) (other : ¬shape.Fits value) :
    ∃ malformation, ofResponse response = .error (.badResponse malformation) := by
  cases read : ofResponse response with
  | error failure =>
    obtain ⟨malformation, rfl⟩ := Result.Reading.isReading failure read
    exact ⟨malformation, rfl⟩
  | ok info =>
    have agrees := ofResponse_eq_ok_iff.1 read key (mem_keys_of_shape? known)
    unfold Agrees at agrees
    rw [Response.get?, (lookup_eq_some_iff_mem distinct).2 mem] at agrees
    obtain ⟨content, here, taken⟩ := agrees
    cases known.symm.trans (shape?_of_content here)
    exact absurd taken.fits other

/-- An info is read from any fields that report it, whatever their order and whatever stands under further keys. A
response that has a field of another shape than its key says makes no info: it is malformed. -/
theorem reported_infos_are_read :
    (∀ (info : Info) fields, info.aaguid.length = 16 → info.IsReported fields →
      ∃ response, Response.ofValue (.map (entriesOf fields)) = .ok response ∧ ofResponse response = .ok info) ∧
    ∀ response : Response, (response.entries.map Prod.fst).Nodup → ∀ key value shape,
      (key, value) ∈ response.entries → shape? key = some shape → ¬shape.Fits value →
        ∃ malformation, ofResponse response = .error (.badResponse malformation) := by
  constructor
  · intro info fields length reported
    exact ⟨⟨fields⟩, Request.ofEntries_entriesOf fields, reported.ofResponse_eq length⟩
  · intro response distinct key value shape mem known other
    exact ofResponse_eq_error distinct mem known other

/-- An info with a few parts of its own. -/
def sparse : Info where
  versions := ["FIDO_2_0", "FIDO_2_1"]
  aaguid := List.replicate 16 0xAB
  options := ⟨[("rk", true), ("up", false)], by decide⟩
  algorithms := [.publicKey (-7)]
  firmwareVersion := some 5

/-- The fields of an info with those of a later standard between them, out of order. -/
def jumbled : List (UInt64 × Value) := [
  (0x0E, .unsigned 5),
  (0x40, .array [.null]),
  (0x04, .map [(.text "up", .bool false), (.text "rk", .bool true)]),
  (0x01, .array [.text "FIDO_2_0", .text "FIDO_2_1"]),
  (0x00, .text "?"),
  (0x0A, .array [.map [(.text "alg", .negative 6), (.text "type", .text "public-key")]]),
  (0x0D, .unsigned 4),
  (0x03, .bytes (List.replicate 16 0xAB))]

theorem isReported_sparse : sparse.IsReported jumbled where
  written := by
    simp only [jumbled, List.forall_mem_cons, List.not_mem_nil, false_implies, implies_true, and_true]
    refine ⟨fun _ => ⟨_, rfl, rfl⟩, fun known => absurd known (by decide), fun _ => ⟨_, rfl, ⟨_, rfl, .swap _ _ _⟩⟩,
      fun _ => ⟨_, rfl, rfl⟩, fun known => absurd known (by decide), fun _ => ⟨_, rfl, ⟨_, rfl, ?_⟩⟩,
      fun _ => ⟨_, rfl, rfl⟩, fun _ => ⟨_, rfl, rfl⟩⟩
    exact .cons ⟨_, rfl, .swap _ _ _⟩ .nil
  omitted := by
    intro key _ left
    simp only [jumbled, List.map_cons, List.map_nil, List.mem_cons, List.not_mem_nil, or_false, not_or] at left
    unfold content
    split
    all_goals first | rfl | simp at left

theorem info_of_jumbled : sparse.IsReported jumbled ∧ ofResponse ⟨jumbled⟩ = .ok sparse ∧
    ∃ malformation, ofResponse ⟨[(0x03, .bytes (List.replicate 15 0xAB))]⟩ = .error (.badResponse malformation) := by
  obtain ⟨reads, refuses⟩ := reported_infos_are_read
  obtain ⟨response, keyed, read⟩ := reads sparse jumbled rfl isReported_sparse
  cases keyed
  refine ⟨isReported_sparse, read, refuses _ (by simp) 0x03 _ .aaguid List.mem_cons_self rfl ?_⟩
  rintro ⟨content, same, length⟩
  cases same
  exact absurd length (by decide)

end Info

end SecurityKey
