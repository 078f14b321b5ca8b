import SecurityKey.Proofs.Dictionary
import SecurityKey.Proofs.Session.Listing
import SecurityKey.Proofs.Text.Blank

/-!
# Listed templates

An authenticator describes each enrolled finger by a map. Listing them loses no template and takes the name of each from
the last of its descriptions.
-/

namespace SecurityKey.Fingerprint

open Cbor (Value writeMap)

open Operation

/-! ## Descriptions -/

/-- The first value that a map has under a number. -/
def HoldsAt (entries : List (Value × Value)) (key : UInt64) (value : Value) : Prop :=
  ∃ before after, entries = before ++ (.unsigned key, value) :: after ∧ ∀ entry ∈ before, entry.1 ≠ .unsigned key

/-- A description is one of the template with an ID. -/
def Describes (description : Value) (id : Bytes) : Prop :=
  ∃ entries, description = .map entries ∧ HoldsAt entries 0x01 (.bytes id)

/-- The name that a description tells: what remains of a text without the blanks around it, if anything does. -/
inductive Names : (description : Value) → Option String → Prop where
  | named {entries : List (Value × Value)} {text name : String} : HoldsAt entries 0x02 (.text text) →
      Text.Surrounds text name → name ≠ "" → Names (.map entries) (some name)
  | blank {entries : List (Value × Value)} {text : String} : HoldsAt entries 0x02 (.text text) →
      Text.Surrounds text "" → Names (.map entries) none
  | nameless {entries : List (Value × Value)} : (∀ text, ¬HoldsAt entries 0x02 (.text text)) → Names (.map entries) none

variable {entries : List (Value × Value)} {key : UInt64} {value description : Value} {id : Bytes} {name : Option String}

theorem entryField_eq_some_iff : entryField entries key = some value ↔ HoldsAt entries key value := by
  have under (other : Value) : (other.unsigned? == some key) = true ↔ other = .unsigned key := by
    rw [beq_iff_eq, Value.unsigned?_eq_some_iff]
  simp only [entryField, Option.map_eq_some_iff, List.find?_eq_some_iff_append, Bool.not_eq_true', ← Bool.not_eq_true,
    under, Prod.exists, exists_eq_right]
  constructor
  · rintro ⟨other, rfl, before, after, rfl, none⟩
    exact ⟨before, after, rfl, none⟩
  · rintro ⟨before, after, rfl, none⟩
    exact ⟨_, rfl, before, after, rfl, none⟩

theorem nameOf_of_none {content : Option Value} (h : content.bind Value.text? = none) : nameOf content = none := by
  rw [nameOf, h]
  rfl

theorem nameOf_of_text {content : Option Value} {text : String} (h : content.bind Value.text? = some text) :
    nameOf content = if Text.trim text = "" then none else some (Text.trim text) := by
  rw [nameOf, h, Option.map_some]
  split
  · rename_i same
    rw [if_pos (Option.some.inj same)]
  · rename_i other
    rw [if_neg fun same => other (congrArg some same)]

theorem names_iff : Names (.map entries) name ↔ nameOf (entryField entries 0x02) = name := by
  have read (text : String) : (entryField entries 0x02).bind Value.text? = some text ↔
      HoldsAt entries 0x02 (.text text) := by
    simp only [Option.bind_eq_some_iff, Value.text?_eq_some_iff, exists_eq_right, entryField_eq_some_iff]
  constructor
  · rintro (⟨held, core, some⟩ | ⟨held, core⟩ | none)
    · rw [nameOf_of_text ((read _).2 held), Text.trim_eq_iff.2 core, if_neg some]
    · rw [nameOf_of_text ((read _).2 held), Text.trim_eq_iff.2 core, if_pos rfl]
    · exact nameOf_of_none (Option.eq_none_iff_forall_ne_some.2 fun text found => none text ((read text).1 found))
  · rintro rfl
    cases found : (entryField entries 0x02).bind Value.text? with
    | none =>
        rw [nameOf_of_none found]
        exact .nameless fun text held => by simp [found] at read; exact read text held
    | some text =>
        have held := (read text).1 found
        rw [nameOf_of_text found]
        split_ifs with empty
        · exact .blank held (Text.trim_eq_iff.1 empty)
        · exact .named held (Text.surrounds_trim text) empty

/-- What is wrong with a description that is one of no template. -/
inductive Undescribed : (description : Value) → Malformation → Prop where
  | notMap {description : Value} : (∀ entries, description ≠ .map entries) → Undescribed description .templateKind
  | withoutId {entries : List (Value × Value)} : (∀ id, ¬Describes (.map entries) id) →
      Undescribed (.map entries) .templateWithoutId

variable {malformation : Malformation}

theorem describes_map_iff : Describes (.map entries) id ↔ (entryField entries 0x01).bind Value.bytes? = some id := by
  simp only [Describes, Value.map.injEq, exists_eq_left', Option.bind_eq_some_iff, Value.bytes?_eq_some_iff,
    exists_eq_right, entryField_eq_some_iff]

theorem Describes.exists_eq_map (h : Describes description id) : ∃ entries, description = .map entries := by
  obtain ⟨entries, same, -⟩ := h
  exact ⟨entries, same⟩

theorem Describes.unique {other : Bytes} (h : Describes description id) (h' : Describes description other) :
    id = other := by
  obtain ⟨entries, rfl⟩ := h.exists_eq_map
  exact Option.some.inj ((describes_map_iff.1 h).symm.trans (describes_map_iff.1 h'))

theorem templateOf_of_describes (h : Describes (.map entries) id) :
    templateOf (.map entries) = .ok (id, nameOf (entryField entries 0x02)) := by
  show (Result.ofOption _ ((entryField entries 0x01).bind Value.bytes?) >>= _) = _
  rw [describes_map_iff.1 h]
  rfl

theorem Undescribed.templateOf_eq (h : Undescribed description malformation) :
    templateOf description = .error (.badResponse malformation) := by
  cases h with
  | notMap other =>
      have absent : description.map? = none :=
        Option.eq_none_iff_forall_ne_some.2 fun entries found => other entries (Value.map?_eq_some_iff.1 found)
      rw [templateOf, absent]
      rfl
  | @withoutId entries nameless =>
      have absent : (entryField entries 0x01).bind Value.bytes? = none :=
        Option.eq_none_iff_forall_ne_some.2 fun id found => nameless id (describes_map_iff.2 found)
      show (Result.ofOption _ ((entryField entries 0x01).bind Value.bytes?) >>= _) = _
      rw [absent]
      rfl

theorem describes_or_undescribed (description : Value) :
    (∃ entries id, description = .map entries ∧ Describes (.map entries) id) ∨
      ∃ malformation, Undescribed description malformation := by
  by_cases isMap : ∃ entries, description = .map entries
  · obtain ⟨entries, rfl⟩ := isMap
    by_cases described : ∃ id, Describes (.map entries) id
    · exact .inl ⟨entries, described.choose, rfl, described.choose_spec⟩
    · exact .inr ⟨_, .withoutId fun id h => described ⟨id, h⟩⟩
  · exact .inr ⟨_, .notMap fun entries same => isMap ⟨entries, same⟩⟩

theorem templateOf_eq_ok_iff :
    templateOf description = .ok (id, name) ↔ Describes description id ∧ Names description name := by
  rcases describes_or_undescribed description with ⟨entries, other, rfl, described⟩ | ⟨malformation, undescribed⟩
  · rw [templateOf_of_describes described, names_iff, Except.ok.injEq, Prod.mk.injEq]
    exact and_congr_left fun _ => ⟨fun same => same ▸ described, described.unique⟩
  · rw [undescribed.templateOf_eq]
    refine ⟨(by cases ·), ?_⟩
    rintro ⟨described, -⟩
    obtain ⟨entries, rfl⟩ := described.exists_eq_map
    have read := undescribed.templateOf_eq
    rw [templateOf_of_describes described] at read
    cases read

theorem templateOf_eq_error_iff {failure : Failure} : templateOf description = .error failure ↔
    ∃ malformation, Undescribed description malformation ∧ failure = .badResponse malformation := by
  constructor
  · intro failed
    rcases describes_or_undescribed description with ⟨entries, other, rfl, described⟩ | ⟨malformation, undescribed⟩
    · rw [templateOf_of_describes described] at failed
      cases failed
    · rw [undescribed.templateOf_eq] at failed
      cases failed
      exact ⟨malformation, undescribed, rfl⟩
  · rintro ⟨malformation, undescribed, rfl⟩
    exact undescribed.templateOf_eq

theorem exists_templateOf_iff :
    (∃ template, templateOf description = .ok template) ↔ ∃ id, Describes description id := by
  constructor
  · rintro ⟨⟨id, name⟩, read⟩
    exact ⟨id, (templateOf_eq_ok_iff.1 read).1⟩
  · rintro ⟨id, described⟩
    obtain ⟨entries, rfl⟩ := described.exists_eq_map
    exact ⟨_, templateOf_of_describes described⟩

/-! ## Directories -/

/-- No two of the descriptions are of one template. -/
def Distinct (descriptions : List Value) : Prop :=
  descriptions.Pairwise fun a b => ∀ id, Describes a id → ¬Describes b id

/-- What the descriptions of templates come to: their templates, each with the name in the last of its descriptions. -/
structure Directory (descriptions : List Value) (directory : Dictionary Bytes (Option String)) : Prop where
  templates : ∀ id, directory.contains id ↔ ∃ description ∈ descriptions, Describes description id
  names : ∀ before description after id name, descriptions = before ++ description :: after →
    Describes description id → (∀ later ∈ after, ¬Describes later id) →
    (directory.get? id = some name ↔ Names description name)
  size : Distinct descriptions → directory.entries.length = descriptions.length

variable {descriptions others : List Value} {pairs : List (Bytes × Option String)}
  {directory directory' : Dictionary Bytes (Option String)}

section Reading

variable (read : descriptions.map templateOf = pairs.map .ok)

include read

theorem mem_templates_iff : id ∈ pairs.map Prod.fst ↔ ∃ description ∈ descriptions, Describes description id := by
  rw [List.mem_map]
  constructor
  · rintro ⟨⟨_, name⟩, mem, rfl⟩
    have mem : (.ok (_, name) : Result (Bytes × Option String)) ∈ pairs.map .ok := List.mem_map_of_mem mem
    rw [← read] at mem
    obtain ⟨description, mem, here⟩ := List.mem_map.1 mem
    exact ⟨description, mem, (templateOf_eq_ok_iff.1 here).1⟩
  · rintro ⟨description, mem, described⟩
    have mem := List.mem_map_of_mem (f := templateOf) mem
    rw [read] at mem
    obtain ⟨⟨other, name⟩, mem, here⟩ := List.mem_map.1 mem
    exact ⟨_, mem, (templateOf_eq_ok_iff.1 here.symm).1.unique described⟩

theorem nodup_templates (distinct : Distinct descriptions) : (pairs.map Prod.fst).Nodup := by
  have apart : (descriptions.map templateOf).Pairwise fun a b => ∀ p q, a = .ok p → b = .ok q → p.1 ≠ q.1 := by
    refine List.pairwise_map.2 (distinct.imp fun apart p q first second same => ?_)
    exact apart p.1 (templateOf_eq_ok_iff.1 first).1 (same ▸ (templateOf_eq_ok_iff.1 second).1)
  rw [read] at apart
  exact List.pairwise_map.2 ((List.pairwise_map.1 apart).imp fun apart => apart _ _ rfl rfl)

theorem get?_templates {before after : List Value} (split : descriptions = before ++ description :: after)
    (described : Describes description id) (last : ∀ later ∈ after, ¬Describes later id) :
    (Dictionary.ofList pairs).get? id = some name ↔ Names description name := by
  subst split
  rw [List.map_append, List.map_cons] at read
  obtain ⟨front, rest, rfl, -, behind⟩ := List.map_eq_append_iff.1 read.symm
  obtain ⟨⟨other, told⟩, back, rfl, here, behind⟩ := List.map_eq_cons_iff.1 behind
  obtain ⟨describes, -⟩ := templateOf_eq_ok_iff.1 here.symm
  obtain rfl := describes.unique described
  have none : other ∉ back.map Prod.fst := by
    rw [mem_templates_iff behind.symm]
    rintro ⟨later, mem, describes⟩
    exact last later mem describes
  rw [Dictionary.get?_ofList_eq_some_iff.2 ⟨front, back, rfl, none⟩, Option.some.injEq]
  constructor
  · rintro rfl
    exact (templateOf_eq_ok_iff.1 here.symm).2
  · intro names
    have same := here.trans (templateOf_eq_ok_iff.2 ⟨described, names⟩)
    exact congrArg Prod.snd (Except.ok.inj same)

theorem directory_ofList : Directory descriptions (.ofList pairs) where
  templates id := by rw [Dictionary.contains_ofList_iff, mem_templates_iff read]
  names before description after id name := get?_templates read
  size distinct := by
    have same := congrArg List.length read
    rw [List.length_map, List.length_map] at same
    rw [(Dictionary.perm_ofList (nodup_templates read distinct)).length_eq, same]

end Reading

/-- Templates that are all described make a directory. -/
theorem exists_read (all : ∀ description ∈ descriptions, ∃ id, Describes description id) :
    ∃ pairs, descriptions.mapM templateOf = .ok pairs := by
  cases read : descriptions.mapM templateOf with
  | ok pairs => exact ⟨pairs, rfl⟩
  | error failure =>
      obtain ⟨before, description, after, rfl, -, failed⟩ := Result.mapM_eq_error_iff.1 read
      obtain ⟨template, read⟩ := exists_templateOf_iff.2 (all description (by simp))
      cases read.symm.trans failed

namespace Directory

theorem get?_eq_some_iff (h : Directory descriptions directory) : directory.get? id = some name ↔
    ∃ before description after, descriptions = before ++ description :: after ∧ Describes description id ∧
      (∀ later ∈ after, ¬Describes later id) ∧ Names description name := by
  constructor
  · intro found
    have contained : directory.contains id := by rw [Dictionary.contains, found]; rfl
    obtain ⟨before, description, after, split, described, last⟩ := exists_last ((h.templates id).1 contained)
    exact ⟨before, description, after, split, described, last, (h.names _ _ _ _ _ split described last).1 found⟩
  · rintro ⟨before, description, after, split, described, last, names⟩
    exact (h.names _ _ _ _ _ split described last).2 names

theorem unique (h : Directory descriptions directory) (h' : Directory descriptions directory') :
    directory = directory' := by
  refine Dictionary.eq_of_get? fun id => Option.ext fun name => ?_
  rw [h.get?_eq_some_iff, h'.get?_eq_some_iff]

/-- Names are tidy and not empty. -/
theorem tidy {name : String} (h : Directory descriptions directory) (found : directory.get? id = some (some name)) :
    name ≠ "" ∧ Text.IsTidy name := by
  obtain ⟨_, description, _, -, -, -, told⟩ := h.get?_eq_some_iff.1 found
  cases told with
  | named _ core some => exact ⟨some, core.tidy⟩

theorem get?_of_distinct (h : Directory descriptions directory) (distinct : Distinct descriptions) :
    directory.get? id = some name ↔
      ∃ description ∈ descriptions, Describes description id ∧ Names description name := by
  rw [h.get?_eq_some_iff]
  constructor
  · rintro ⟨before, description, after, rfl, described, -, names⟩
    exact ⟨description, by simp, described, names⟩
  · rintro ⟨description, mem, described, names⟩
    obtain ⟨before, after, rfl⟩ := List.append_of_mem mem
    obtain ⟨-, rest, -⟩ := List.pairwise_append.1 distinct
    refine ⟨before, description, after, rfl, described, fun later mem => ?_, names⟩
    exact (List.pairwise_cons.1 rest).1 later mem id described

/-- Distinct templates may be described in any order. -/
theorem eq_of_perm (h : Directory descriptions directory) (distinct : Distinct descriptions)
    (perm : others.Perm descriptions) (h' : Directory others directory') : directory' = directory := by
  have distinct' : Distinct others := by
    refine (perm.pairwise_iff ?_).2 distinct
    exact fun apart id second first => apart id first second
  refine Dictionary.eq_of_get? fun id => Option.ext fun name => ?_
  rw [h.get?_of_distinct distinct, h'.get?_of_distinct distinct']
  simp only [perm.mem_iff]

end Directory

/-! ## Listing -/

/-- How a reply to the request for the templates is taken. -/
inductive Listed : Result (Option Response) → Result (Dictionary Bytes (Option String)) → Prop where
  | noData : Listed (.ok none) (.ok .empty)
  | noList {response : Response} : response.get? 0x07 = none → Listed (.ok (some response)) (.ok .empty)
  | nothing : Listed (.error (.status Status.invalidOption)) (.ok .empty)
  | templates {response : Response} {descriptions : List Value} {directory : Dictionary Bytes (Option String)} :
      response.get? 0x07 = some (.array descriptions) →
      (∀ description ∈ descriptions, ∃ id, Describes description id) → Directory descriptions directory →
      Listed (.ok (some response)) (.ok directory)
  | undescribed {response : Response} {before after : List Value} {description : Value} {malformation : Malformation} :
      response.get? 0x07 = some (.array (before ++ description :: after)) →
      (∀ earlier ∈ before, ∃ id, Describes earlier id) → Undescribed description malformation →
      Listed (.ok (some response)) (.error (.badResponse malformation))
  | notList {response : Response} {value : Value} : response.get? 0x07 = some value →
      (∀ descriptions, value ≠ .array descriptions) →
      Listed (.ok (some response)) (.error (.badResponse (.fieldKind 0x07 "an array" value)))
  | failed {failure : Failure} : failure ≠ .status Status.invalidOption → Listed (.error failure) (.error failure)

/-- What a failure to list the templates comes to. -/
def absent : Failure → Result (Dictionary Bytes (Option String))
  | .status code => if code = Status.invalidOption then .ok .empty else .error (.status code)
  | failure => .error failure

theorem unlisted_gives (failure : Failure) : (unlisted failure).Gives (absent failure) := by
  intro session
  cases failure with
  | status code =>
      by_cases none : code = Status.invalidOption
      · rw [unlisted, absent, if_pos none, if_pos none]
        rfl
      · rw [unlisted, absent, if_neg none, if_neg none]
        rfl
  | _ => rfl

theorem absent_of_ne {failure : Failure} (other : failure ≠ .status Status.invalidOption) :
    absent failure = .error failure := by
  cases failure with
  | status code => exact if_neg fun same => other (congrArg Failure.status same)
  | _ => rfl

/-- The templates that a reply comes to. -/
def listed (reply : Result (Option Response)) : Result (Dictionary Bytes (Option String)) :=
  (reply.bind templatesOf).tryCatch absent

variable {reply : Result (Option Response)} {result : Result (Dictionary Bytes (Option String))} {response : Response}

theorem listed_of_array (field : response.get? 0x07 = some (.array descriptions)) :
    listed (.ok (some response)) = ((descriptions.mapM templateOf).map .ofList).tryCatch absent := by
  have read : response.field .array 0x07 = .ok (some descriptions) :=
    (Response.field_eq_ok_iff field).2 ⟨descriptions, rfl, rfl⟩
  show (response.field .array 0x07 >>= _ : Result _).tryCatch absent = _
  rw [read]
  rfl

theorem listed_of_read (field : response.get? 0x07 = some (.array descriptions))
    (read : descriptions.mapM templateOf = .ok pairs) : listed (.ok (some response)) = .ok (.ofList pairs) := by
  rw [listed_of_array field, read]
  rfl

theorem Listed.listed_eq (h : Listed reply result) : listed reply = result := by
  cases h with
  | noData => rfl
  | @noList response none =>
      show (response.field .array 0x07 >>= _ : Result _).tryCatch absent = _
      rw [Response.field_of_none none]
      rfl
  | nothing => rfl
  | templates field all directory =>
      obtain ⟨pairs, read⟩ := exists_read all
      rw [listed_of_read field read, directory.unique (directory_ofList (Result.mapM_eq_ok_iff.1 read))]
  | undescribed field earlier wrong =>
      have earlier := fun description mem => exists_templateOf_iff.2 (earlier description mem)
      rw [listed_of_array field, Result.mapM_eq_error_iff.2 ⟨_, _, _, rfl, earlier, wrong.templateOf_eq⟩]
      rfl
  | @notList response value field other =>
      have none : value.array? = none :=
        Option.eq_none_iff_forall_ne_some.2 fun items found => other items (Value.array?_eq_some_iff.1 found)
      have failed : response.field .array 0x07 = .error (.badResponse (.fieldKind 0x07 "an array" value)) := by
        rw [Response.field, field]
        show some <$> Result.ofOption _ value.array? = _
        rw [none]
        rfl
      show (response.field .array 0x07 >>= _ : Result _).tryCatch absent = _
      rw [failed]
      rfl
  | failed other => exact absent_of_ne other

theorem exists_listed_of_array (field : response.get? 0x07 = some (.array descriptions)) :
    ∃ result, Listed (.ok (some response)) result := by
  cases read : descriptions.mapM templateOf with
  | ok pairs =>
      have read := Result.mapM_eq_ok_iff.1 read
      refine ⟨_, .templates field (fun description mem => exists_templateOf_iff.1 ?_) (directory_ofList read)⟩
      have mem := List.mem_map_of_mem (f := templateOf) mem
      rw [read] at mem
      obtain ⟨template, -, same⟩ := List.mem_map.1 mem
      exact ⟨template, same.symm⟩
  | error failure =>
      obtain ⟨before, description, after, rfl, earlier, failed⟩ := Result.mapM_eq_error_iff.1 read
      obtain ⟨malformation, wrong, -⟩ := templateOf_eq_error_iff.1 failed
      exact ⟨_, .undescribed field (fun description mem => exists_templateOf_iff.1 (earlier description mem)) wrong⟩

theorem exists_listed (reply : Result (Option Response)) : ∃ result, Listed reply result := by
  rcases reply with failure | _ | response
  · by_cases nothing : failure = .status Status.invalidOption
    · subst nothing
      exact ⟨_, .nothing⟩
    · exact ⟨_, .failed nothing⟩
  · exact ⟨_, .noData⟩
  · cases field : response.get? 0x07 with
    | none => exact ⟨_, .noList field⟩
    | some value =>
        by_cases isArray : ∃ descriptions, value = .array descriptions
        · obtain ⟨descriptions, rfl⟩ := isArray
          exact exists_listed_of_array field
        · exact ⟨_, .notList field fun descriptions same => isArray ⟨descriptions, same⟩⟩

theorem listed_iff : Listed reply result ↔ listed reply = result := by
  refine ⟨Listed.listed_eq, ?_⟩
  rintro rfl
  obtain ⟨result, h⟩ := exists_listed reply
  rwa [h.listed_eq]

/-! ## The whole call -/

/-- The request for the templates. -/
def listRequest (token : Token) (info : Info) : Bytes :=
  (Signer.fingerprints.command info).byte :: writeMap (Request.fields
    (Signer.fingerprints.arguments 0x04 none token.protocol.version (token.authenticate [0x01, 0x04])))

theorem asks_listTemplates (token : Token) (session : Session) :
    (listTemplates token).Asks (listRequest token session.info) listed session := by
  have accepted : (none : Option Value).map Value.canonical = (none : Option Bytes).map .ok := rfl
  have message : Signer.fingerprints.domain ++ 0x04 :: (none : Option Bytes).getD [] = [0x01, 0x04] := rfl
  have sent : (Signer.fingerprints.call token 0x04 none).Asks _ id (quiet session) :=
    Signer.fingerprints.asks_call_of_accepted accepted
  rw [message] at sent
  rw [listTemplates_eq]
  exact .unattended ((sent.bind fun response => gives_liftM (templatesOf response)).tryCatch unlisted_gives)

/-- Listing the templates makes one exchange, and what comes of it is decided by the reply. Descriptions of templates
make a directory of exactly their templates, with the name in the last description of each, and all of its names are
tidy and not empty. When no two of the descriptions are of one template, the directory has as many entries, and it is
the same in whatever order they come. -/
theorem templates_are_listed_whole :
    (∀ (token : Token) (session : Session), ∃ exchange : Link.Exchange,
      exchange.request = listRequest token session.info ∧ (listTemplates token).Makes [exchange] session ∧
      ∀ result, Listed exchange.reply result ↔ ((listTemplates token).on session).1 = result) ∧
    (∀ descriptions : List Value, (∀ description ∈ descriptions, ∃ id, Describes description id) →
      ∃ directory, Directory descriptions directory) ∧
    ∀ descriptions directory, Directory descriptions directory →
      (∀ id name, directory.get? id = some (some name) → name ≠ "" ∧ Text.IsTidy name) ∧
      (Distinct descriptions → directory.entries.length = descriptions.length ∧
        ∀ others directory', others.Perm descriptions → Directory others directory' → directory' = directory) := by
  refine ⟨fun token session => ?_, fun descriptions all => ?_, fun descriptions directory h => ?_⟩
  · obtain ⟨exchange, same, makes, result, -⟩ := asks_listTemplates token session
    refine ⟨exchange, same, makes, fun result' => ?_⟩
    rw [listed_iff, result]
  · obtain ⟨pairs, read⟩ := exists_read all
    exact ⟨_, directory_ofList (Result.mapM_eq_ok_iff.1 read)⟩
  · exact ⟨fun id name found => h.tidy found,
      fun distinct => ⟨h.size distinct, fun others directory' perm h' => h.eq_of_perm distinct perm h'⟩⟩

/-- The description of a template by an ID of one byte and a text. -/
def labelled (id : UInt8) (text : String) : Value :=
  .map [(.unsigned 0x01, .bytes [id]), (.unsigned 0x02, .text text)]

/-- Two templates, of which one has a name. -/
def twoTemplates : List Value :=
  [labelled 0x02 " a\t", labelled 0x01 " "]

/-- The response that lists two templates. -/
def listing : Response :=
  ⟨[(0x07, .array twoTemplates)]⟩

theorem describes_labelled (id : UInt8) (text : String) : Describes (labelled id text) [id] :=
  ⟨_, rfl, [], _, rfl, by simp⟩

theorem readable_labelled (depth : Nat) (id : UInt8) {text : String} (size : (Bytes.ofText text).length < 2 ^ 64) :
    Cbor.Readable (depth + 1) (labelled id text) := by
  refine .map (show 2 < 2 ^ 64 by decide) ?_ ?_
  · simp [Cbor.Readable.unsigned]
  · simp [Cbor.Readable.bytes, Cbor.Readable.text depth size]

theorem ofAnswer_listing : Response.ofAnswer listing.toAnswer = .ok (some listing) := by
  refine Response.ofAnswer_toAnswer (by decide) (List.forall_mem_singleton.2 (.array (by decide) ?_))
  simp only [twoTemplates, List.forall_mem_cons]
  exact ⟨readable_labelled _ _ (by decide), readable_labelled _ _ (by decide), by simp⟩

theorem listed_twoTemplates :
    (∀ description ∈ twoTemplates, ∃ id, Describes description id) ∧ Distinct twoTemplates ∧
    ∃ directory, Directory twoTemplates directory ∧
      ((listTemplates ⟨.two, []⟩).on (answeringSession [listing.toAnswer])).1 = .ok directory ∧
      directory.get? [0x02] = some (some "a") ∧ Text.IsTidy "a" ∧ directory.entries.length = 2 ∧
      ∀ directory', Directory twoTemplates.reverse directory' → directory' = directory := by
  have all : ∀ description ∈ twoTemplates, ∃ id, Describes description id := by
    simp only [twoTemplates, List.forall_mem_cons]
    exact ⟨⟨_, describes_labelled _ _⟩, ⟨_, describes_labelled _ _⟩, by simp⟩
  have distinct : Distinct twoTemplates := by
    refine List.pairwise_pair.2 fun id first second => ?_
    cases first.unique (describes_labelled _ _)
    cases second.unique (describes_labelled _ _)
  obtain ⟨calls, directories, properties⟩ := templates_are_listed_whole
  obtain ⟨directory, holds⟩ := directories twoTemplates all
  obtain ⟨tidy, whole⟩ := properties twoTemplates directory holds
  obtain ⟨size, order⟩ := whole distinct
  obtain ⟨exchange, -, makes, result⟩ := calls ⟨.two, []⟩ (answeringSession [listing.toAnswer])
  have replied : exchange.reply = .ok (some listing) := (reply_of_answeringSession makes).trans ofAnswer_listing
  have named : directory.get? [0x02] = some (some "a") := by
    refine (holds.get?_of_distinct distinct).2 ⟨_, List.mem_cons_self, describes_labelled _ _, ?_⟩
    exact .named ⟨[_], [], rfl, by simp⟩ (Text.trim_eq_iff.1 (by decide)) (by decide)
  refine ⟨all, distinct, directory, holds, (result _).1 ?_, named, (tidy _ _ named).2, size, fun directory' holds' => ?_⟩
  · rw [replied]
    exact .templates rfl all holds
  · exact order _ directory' twoTemplates.reverse_perm holds'

end SecurityKey.Fingerprint
