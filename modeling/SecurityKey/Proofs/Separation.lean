import SecurityKey.Proofs.Cbor.Reordering
import SecurityKey.Proofs.Session.Calls
import SecurityKey.Proofs.Signing

/-!
# Signed messages are separate

What a token vouches for names one sub-command of one command with one set of parameters. The messages have no lengths
in them and the commands that sign them start them in different ways, but no two different ones are the same.
-/

namespace SecurityKey

open Cbor (Value writeMap DistinctlyKeyed Reordered Sized EachMap)

open Operation

/-! ## Messages -/

namespace Signer

/-- Whether a sub-command that is signed takes parameters; `none` when it is not one. -/
def takesParams? : Signer → UInt8 → Option Bool
  | fingerprints, subCommand =>
    List.lookup subCommand [(0x01, true), (0x02, true), (0x04, false), (0x05, true), (0x06, true)]
  | credentials, subCommand =>
    List.lookup subCommand [(0x01, false), (0x02, false), (0x04, true), (0x06, true), (0x07, true)]
  | settings, subCommand =>
    List.lookup subCommand [(0x01, false), (0x02, false), (0x03, true), (0xFF, true)]

/-- The message over a sub-command and its written parameters. -/
def message (signer : Signer) (subCommand : UInt8) (encoded : Option Bytes) : Bytes :=
  signer.domain ++ subCommand :: encoded.getD []

variable {signer signer' : Signer} {subCommand subCommand' : UInt8} {encoded encoded' : Option Bytes}

theorem eq_none_of_takes_none (known : signer.takesParams? subCommand = some encoded.isSome)
    (none : signer.takesParams? subCommand = some false) : encoded = .none := by
  rw [none] at known
  simpa using known

/-- The sub-command that equals the prefix of the other messages has no parameters after it. -/
theorem credentials_ne_fingerprints (known : credentials.takesParams? subCommand = some encoded.isSome) :
    credentials.message subCommand encoded ≠ fingerprints.message subCommand' encoded' := by
  intro same
  have same : subCommand :: encoded.getD [] = 0x01 :: subCommand' :: encoded'.getD [] := same
  obtain ⟨rfl, rest⟩ := List.cons.inj same
  cases eq_none_of_takes_none known rfl
  cases rest

theorem credentials_ne_settings (known : credentials.takesParams? subCommand = some encoded.isSome) :
    credentials.message subCommand encoded ≠ settings.message subCommand' encoded' := by
  intro same
  have same : subCommand :: encoded.getD [] = 0xFF :: _ := same
  obtain ⟨rfl, -⟩ := List.cons.inj same
  cases known

theorem fingerprints_ne_settings :
    fingerprints.message subCommand encoded ≠ settings.message subCommand' encoded' := by
  intro same
  have same : (0x01 : UInt8) :: subCommand :: encoded.getD [] = 0xFF :: _ := same
  exact absurd (List.cons.inj same).1 (by decide)

theorem message_inj (known : signer.takesParams? subCommand = some encoded.isSome)
    (known' : signer'.takesParams? subCommand' = some encoded'.isSome)
    (same : signer.message subCommand encoded = signer'.message subCommand' encoded') :
    signer = signer' ∧ subCommand = subCommand' ∧ encoded = encoded' := by
  -- Different signers are told apart by how their messages start, whatever the sub-commands are.
  have signers : signer = signer' := by
    cases signer <;> cases signer'
    · rfl
    · exact absurd same.symm (credentials_ne_fingerprints known')
    · exact absurd same fingerprints_ne_settings
    · exact absurd same (credentials_ne_fingerprints known)
    · rfl
    · exact absurd same (credentials_ne_settings known)
    · exact absurd same.symm fingerprints_ne_settings
    · exact absurd same.symm (credentials_ne_settings known')
    · rfl
  subst signers
  obtain ⟨rfl, rest⟩ := List.cons.inj (List.append_cancel_left same)
  refine ⟨rfl, rfl, ?_⟩
  have both : encoded.isSome = encoded'.isSome := Option.some.inj (known.symm.trans known')
  cases encoded <;> cases encoded' <;> simp_all

end Signer

/-! ## Signed calls -/

/-- A call that a token vouches for, with the kind of reply. -/
inductive SignedCall : Type → Type where
  | beginEnrollment (timeout : Option Duration) : SignedCall (Bytes × Fingerprint.Sample)
  | captureNext (templateId : Bytes) (timeout : Option Duration) : SignedCall Fingerprint.Sample
  | listTemplates : SignedCall (Dictionary Bytes (Option String))
  | setName (templateId : Bytes) (name : String) : SignedCall Unit
  | removeTemplate (templateId : Bytes) : SignedCall Unit
  | getUsage : SignedCall CredentialStore.Usage
  | listRelyingParties : SignedCall (List CredentialStore.RelyingParty)
  | listCredentials (rpIdHash : Bytes) : SignedCall (List CredentialStore.StoredCredential)
  | removeCredential (credential : CredentialDescriptor) : SignedCall Unit
  | updateUser (credential : CredentialDescriptor) (user : UserEntity) : SignedCall Unit
  | enableEnterpriseAttestation : SignedCall Unit
  | toggleAlwaysVerify : SignedCall Unit
  | setMinPinLength (length : Option UInt64) (rpIds : Option (List String)) (forceChange : Bool) : SignedCall Unit
  | vendorCommand (id : UInt64) : SignedCall (Option Response)

namespace SignedCall

variable {Reply : Type}

/-- The call with a token. -/
def withToken (token : Token) : SignedCall Reply → Call Reply
  | beginEnrollment timeout => .beginEnrollment token timeout
  | captureNext templateId timeout => .captureNext token templateId timeout
  | listTemplates => .listTemplates token
  | setName templateId name => .setName token templateId name
  | removeTemplate templateId => .removeTemplate token templateId
  | getUsage => .getUsage token
  | listRelyingParties => .listRelyingParties token
  | listCredentials rpIdHash => .listCredentials token rpIdHash
  | removeCredential credential => .removeCredential token credential
  | updateUser credential user => .updateUser token credential user
  | enableEnterpriseAttestation => .enableEnterpriseAttestation (some token)
  | toggleAlwaysVerify => .toggleAlwaysVerify (some token)
  | setMinPinLength length rpIds forceChange => .setMinPinLength (some token) length rpIds forceChange
  | vendorCommand id => .vendorCommand (some token) id

/-- The command whose sub-command a call is. -/
def signer : SignedCall Reply → Signer
  | beginEnrollment _ | captureNext _ _ | listTemplates | setName _ _ | removeTemplate _ => .fingerprints
  | getUsage | listRelyingParties | listCredentials _ | removeCredential _ | updateUser _ _ => .credentials
  | enableEnterpriseAttestation | toggleAlwaysVerify | setMinPinLength _ _ _ | vendorCommand _ => .settings

/-- The sub-command of a call. -/
def subCommand : SignedCall Reply → UInt8
  | beginEnrollment _ => 0x01
  | captureNext _ _ => 0x02
  | listTemplates => 0x04
  | setName _ _ => 0x05
  | removeTemplate _ => 0x06
  | getUsage => 0x01
  | listRelyingParties => 0x02
  | listCredentials _ => 0x04
  | removeCredential _ => 0x06
  | updateUser _ _ => 0x07
  | enableEnterpriseAttestation => 0x01
  | toggleAlwaysVerify => 0x02
  | setMinPinLength _ _ _ => 0x03
  | vendorCommand _ => 0xFF

/-- The parameters of a call's sub-command, by position. -/
def arguments? : SignedCall Reply → Option (List (Option Value))
  | beginEnrollment timeout => some [none, none, Fingerprint.timeoutValue timeout]
  | captureNext templateId timeout => some [some (.bytes templateId), none, Fingerprint.timeoutValue timeout]
  | setName templateId name => some [some (.bytes templateId), some (.text name)]
  | removeTemplate templateId => some [some (.bytes templateId)]
  | listCredentials rpIdHash => some [some (.bytes rpIdHash)]
  | removeCredential credential => some [none, some credential.toValue]
  | updateUser credential user => some [none, some credential.toValue, some user.toValue]
  | setMinPinLength length rpIds forceChange => some [
    length.map .unsigned,
    rpIds.map fun ids => .array (ids.map .text),
    some (.bool forceChange)]
  | vendorCommand id => some [some (.unsigned id)]
  | listTemplates | getUsage | listRelyingParties | enableEnterpriseAttestation | toggleAlwaysVerify => none

/-- The parameters of a call's sub-command. -/
def params (call : SignedCall Reply) : Option Value :=
  call.arguments?.map Request.pack

/-- The parameters of a call's sub-command in their canonical form. -/
def written (call : SignedCall Reply) : Option Bytes :=
  call.params.map fun params => params.order.1.write

/-- The message that a token vouches for with a call. -/
def message (call : SignedCall Reply) : Bytes :=
  call.signer.message call.subCommand call.written

theorem takesParams?_eq (call : SignedCall Reply) :
    call.signer.takesParams? call.subCommand = some call.written.isSome := by
  cases call <;> rfl

end SignedCall

/-! ## Parameters have distinct keys -/

theorem Request.distinctlyKeyed_pack {arguments : List (Option Value)} (bound : arguments.length < 2 ^ 64)
    (each : ∀ argument, some argument ∈ arguments → DistinctlyKeyed argument) : DistinctlyKeyed (pack arguments) := by
  rw [pack, packFrom_eq]
  refine .map ⟨fun key mem => ?_, ?_⟩ fun entry mem => ?_
  · obtain ⟨entry, inside, rfl⟩ := List.mem_map.1 mem
    obtain ⟨field, -, rfl⟩ := List.mem_map.1 inside
    rfl
  · rw [Cbor.entriesOf, List.map_map, List.Nodup, List.pairwise_map]
    refine (pairwise_numbered (by simp; omega)).imp fun {a b} less same => ?_
    exact UInt64.ne_of_lt less (Value.unsigned.inj same)
  · obtain ⟨field, inside, rfl⟩ := List.mem_map.1 mem
    exact each _ (mem_of_mem_numbered inside)

theorem CredentialDescriptor.distinctlyKeyed (credential : CredentialDescriptor) :
    DistinctlyKeyed credential.toValue := by
  obtain ⟨type, id, transports⟩ := credential
  refine .map ?_ fun entry mem => ?_
  · cases transports <;> simp [Value.isKey, Entity.member?]
  · cases transports with
    | none =>
        rcases List.mem_pair.1 mem with rfl | rfl
        · exact .atom rfl
        · exact .atom rfl
    | some names =>
        simp only [Entity.member?, Option.map_some, Option.toList_some, List.mem_cons, List.not_mem_nil, or_false] at mem
        rcases mem with rfl | rfl | rfl
        · exact .atom rfl
        · exact .atom rfl
        · refine .array fun item inside => ?_
          obtain ⟨name, -, rfl⟩ := List.mem_map.1 inside
          exact .atom rfl

theorem UserEntity.distinctlyKeyed (user : UserEntity) : DistinctlyKeyed user.toValue := by
  obtain ⟨id, name, displayName⟩ := user
  have atoms : ∀ entry ∈ ((.text "id", .bytes id) ::
      (Entity.member? "name" .text name ++ Entity.member? "displayName" .text displayName) : List (Value × Value)),
      entry.2.isAtom := by
    cases name <;> cases displayName <;> simp [Value.isAtom, Entity.member?]
  refine .map ?_ fun entry mem => .atom (atoms entry mem)
  cases name <;> cases displayName <;> simp [Value.isKey, Entity.member?]

theorem distinctlyKeyed_of_atoms {α : Type} {of : α → Value} (atoms : ∀ a, (of a).isAtom) (field : Option α) :
    ∀ argument ∈ field.map of, DistinctlyKeyed argument := by
  intro argument mem
  obtain ⟨a, -, rfl⟩ := Option.map_eq_some_iff.1 mem
  exact .atom (atoms a)

theorem SignedCall.distinctlyKeyed_arguments {Reply : Type} {call : SignedCall Reply} {arguments : List (Option Value)}
    (h : call.arguments? = some arguments) :
    arguments.Forall fun field => ∀ argument ∈ field, DistinctlyKeyed argument := by
  have none : ∀ argument ∈ (none : Option Value), DistinctlyKeyed argument := nofun
  have bytes (content : Bytes) : ∀ argument ∈ some (Value.bytes content), DistinctlyKeyed argument :=
    distinctlyKeyed_of_atoms (fun _ => rfl) (some content)
  have timeout (timeout : Option Duration) : ∀ argument ∈ Fingerprint.timeoutValue timeout, DistinctlyKeyed argument :=
    distinctlyKeyed_of_atoms (fun _ => rfl) timeout
  have credential (credential : CredentialDescriptor) : ∀ argument ∈ some credential.toValue, DistinctlyKeyed argument :=
    fun _ same => Option.some.inj same ▸ credential.distinctlyKeyed
  cases call with
  | beginEnrollment span =>
      cases h
      exact ⟨none, none, timeout span⟩
  | captureNext templateId span =>
      cases h
      exact ⟨bytes templateId, none, timeout span⟩
  | setName templateId name =>
      cases h
      exact ⟨bytes templateId, distinctlyKeyed_of_atoms (fun _ => rfl) (some name)⟩
  | removeTemplate templateId =>
      cases h
      exact bytes templateId
  | listCredentials rpIdHash =>
      cases h
      exact bytes rpIdHash
  | removeCredential descriptor =>
      cases h
      exact ⟨none, credential descriptor⟩
  | updateUser descriptor user =>
      cases h
      exact ⟨none, credential descriptor, fun _ same => Option.some.inj same ▸ user.distinctlyKeyed⟩
  | setMinPinLength length rpIds forceChange =>
      cases h
      refine ⟨distinctlyKeyed_of_atoms (fun _ => rfl) length, fun argument mem => ?_,
        distinctlyKeyed_of_atoms (fun _ => rfl) (some forceChange)⟩
      obtain ⟨ids, -, rfl⟩ := Option.map_eq_some_iff.1 mem
      refine .array fun item inside => ?_
      obtain ⟨id, -, rfl⟩ := List.mem_map.1 inside
      exact .atom rfl
  | vendorCommand id =>
      cases h
      exact distinctlyKeyed_of_atoms (fun _ => rfl) (some id)
  | listTemplates | getUsage | listRelyingParties | enableEnterpriseAttestation | toggleAlwaysVerify => cases h

theorem SignedCall.distinctlyKeyed {Reply : Type} {call : SignedCall Reply} {params : Value}
    (h : call.params = some params) : DistinctlyKeyed params := by
  obtain ⟨arguments, given, rfl⟩ := Option.map_eq_some_iff.1 h
  have each := List.forall_iff_forall_mem.1 (distinctlyKeyed_arguments given)
  refine Request.distinctlyKeyed_pack ?_ fun argument mem => each _ mem argument rfl
  cases call <;> cases given <;> simp

/-! ## What a token vouches for -/

namespace SignedCall

open Fingerprint (listTemplates_eq)

variable {Reply : Type}

/-- A token has no part in a call but through the request that it signs. -/
theorem perform_congr {call : SignedCall Reply} {token other : Token}
    (same : call.signer.call other call.subCommand call.params = call.signer.call token call.subCommand call.params) :
    (call.withToken other).perform = (call.withToken token).perform := by
  cases call <;>
    simp only [signer, Signer.call, subCommand, params, arguments?, Option.map_some, Option.map_none] at same
  case listTemplates => simp only [withToken, Call.perform, listTemplates_eq, same]
  all_goals
    simp only [withToken, Call.perform, Fingerprint.beginEnrollment, Fingerprint.captureNext, Fingerprint.setName,
      Fingerprint.removeTemplate, CredentialStore.getUsage, CredentialStore.listRelyingParties,
      CredentialStore.listCredentials, CredentialStore.remove, CredentialStore.updateUser,
      Settings.enableEnterpriseAttestation, Settings.toggleAlwaysVerify, Settings.setMinPinLength,
      Settings.vendorCommand, same]

theorem begins_begun {asked : Operation (Option Response)} {request : Bytes} {session : Session}
    (asks : asked.Begins request session) : (CredentialStore.begun asked).Begins request session := by
  unfold CredentialStore.begun
  exact asks.tryCatch fun failure => by cases failure <;> infer_instance

theorem begins_perform {call : SignedCall Reply} {token : Token} (request : Info → Bytes)
    (asks : ∀ session : Session,
      (call.signer.call token call.subCommand call.params).Begins (request session.info) session) (session : Session) :
    (call.withToken token).perform.Begins (request session.info) session := by
  have quiet : (call.signer.call token call.subCommand call.params).Begins (request session.info) (quiet session) :=
    asks (quiet session)
  have asks := asks session
  -- What a call does after its first request is of no matter here, but for using the link in order.
  cases call with
  | beginEnrollment timeout => exact asks.bind fun _ => inferInstance
  | captureNext templateId timeout => exact asks.bind fun _ => inferInstance
  | listTemplates =>
      show (Fingerprint.listTemplates token).Begins _ session
      rw [listTemplates_eq]
      exact .unattended (.tryCatch (quiet.bind fun _ => inferInstance) fun _ => inferInstance)
  | setName templateId name => exact .unattended (quiet.bind fun _ => inferInstance)
  | removeTemplate templateId => exact .unattended (quiet.bind fun _ => inferInstance)
  | getUsage => exact asks.bind fun _ => inferInstance
  | listRelyingParties =>
      show (CredentialStore.listRelyingParties token).Begins _ session
      unfold CredentialStore.listRelyingParties
      refine (begins_begun asks).bind fun first => ?_
      cases first with
      | none => infer_instance
      | some first =>
          refine orderly_bind fun total => ?_
          split <;> infer_instance
  | listCredentials rpIdHash =>
      show (CredentialStore.listCredentials token rpIdHash).Begins _ session
      unfold CredentialStore.listCredentials
      refine (begins_begun (asks.bind fun _ => inferInstance)).bind fun first => ?_
      cases first <;> infer_instance
  | removeCredential credential => exact asks.bind fun _ => inferInstance
  | updateUser credential user => exact asks.bind fun _ => inferInstance
  | enableEnterpriseAttestation => exact asks.bind fun _ => inferInstance
  | toggleAlwaysVerify => exact asks.bind fun _ => inferInstance
  | setMinPinLength length rpIds forceChange => exact asks.bind fun _ => inferInstance
  | vendorCommand id => exact asks

/-- What a token vouches for with a call is a message: the first request of the call holds the code of it, and with
another token for which the message has the same code the call is the same. -/
structure Signs (call : SignedCall Reply) (token : Token) (message : Bytes) : Prop where
  sent : ∃ (encoded : Option Bytes) (fields : List (UInt64 × Bytes)),
    call.params.map Value.canonical = encoded.map .ok ∧
    message = call.signer.domain ++ call.subCommand :: encoded.getD [] ∧
    call.signer.Vouched token call.subCommand encoded fields ∧
    ∀ session, (call.withToken token).perform.Begins
      ((call.signer.command session.info).byte :: writeMap fields) session
  alone : ∀ other : Token, other.protocol = token.protocol → other.authenticate message = token.authenticate message →
    (call.withToken other).perform = (call.withToken token).perform

theorem canonical_params (call : SignedCall Reply) : call.params.map Value.canonical = call.written.map .ok := by
  unfold written
  cases given : call.params with
  | none => rfl
  | some params => simp [(distinctlyKeyed given).orderable.canonical]

theorem signs_message (call : SignedCall Reply) (token : Token) : call.Signs token call.message := by
  have canonical := call.canonical_params
  constructor
  · refine ⟨_, _, canonical, rfl, Signer.vouched_fields canonical, ?_⟩
    exact begins_perform (fun info => (call.signer.command info).byte :: writeMap _)
      fun session => (Signer.sends_call canonical).begins
  · intro other version code
    refine perform_congr ?_
    rw [Signer.call_eq, Signer.call_eq, Signer.authenticated_eq canonical, version]
    exact congrArg (fun code => call.signer.send (Request.pack
      (call.signer.arguments call.subCommand call.params token.protocol.version code))) code

theorem written_eq_iff {Reply' : Type} {first : SignedCall Reply} {second : SignedCall Reply'}
    (sized : ∀ params ∈ first.params, Sized params) (sized' : ∀ params ∈ second.params, Sized params) :
    first.written = second.written ↔ Option.Rel Reordered first.params second.params := by
  unfold written
  cases given : first.params with
  | none => cases second.params <;> simp
  | some params =>
      cases given' : second.params with
      | none => simp
      | some params' =>
          rw [Option.map_some, Option.map_some, Option.some.injEq, Option.rel_some_some]
          exact Cbor.write_order_eq_iff (sized params given) (sized' params' given') (distinctlyKeyed given)
            (distinctlyKeyed given')

/-- Calls with a token sign their messages and nothing else, and two calls have the same message exactly when they are
the same sub-command of the same command and have parameters that differ in nothing but the order of map entries. -/
theorem signed_messages_are_separate {Reply Reply' : Type} (first : SignedCall Reply) (second : SignedCall Reply')
    (token : Token) (sized : ∀ params ∈ first.params, Sized params) (sized' : ∀ params ∈ second.params, Sized params) :
    first.Signs token first.message ∧ second.Signs token second.message ∧
      (first.message = second.message ↔ first.signer = second.signer ∧ first.subCommand = second.subCommand ∧
        Option.Rel Reordered first.params second.params) := by
  refine ⟨first.signs_message token, second.signs_message token, ?_⟩
  rw [← written_eq_iff sized sized']
  constructor
  · exact Signer.message_inj first.takesParams?_eq second.takesParams?_eq
  · rintro ⟨signers, commands, params⟩
    rw [message, message, signers, commands, params]

theorem sized_removeTemplate : ∀ params ∈ (removeTemplate [0x07]).params, Sized params := by
  rintro params ⟨⟩
  refine .map (by decide) ?_ ?_ <;> rintro entry (_ | ⟨_, ⟨⟩⟩)
  · exact .unsigned 1
  · exact .bytes (by decide)

theorem sized_removeCredential : ∀ params ∈ (removeCredential (.publicKey [0x07])).params, Sized params := by
  rintro params ⟨⟩
  refine .map (by decide) ?_ ?_ <;> rintro entry (_ | ⟨_, ⟨⟩⟩)
  · exact .unsigned 2
  · refine .map (by decide) ?_ ?_ <;> rintro entry (_ | ⟨_, _ | ⟨_, ⟨⟩⟩⟩)
    · exact .text (by decide)
    · exact .text (by decide)
    · exact .text (by decide)
    · exact .bytes (by decide)

theorem removals_are_separate :
    (∀ params ∈ (removeTemplate [0x07]).params, Sized params) ∧
    (∀ params ∈ (removeCredential (.publicKey [0x07])).params, Sized params) ∧
    (removeTemplate [0x07]).message ≠ (removeCredential (.publicKey [0x07])).message ∧
    (removeTemplate [0x07]).Signs ⟨.two, [0x01]⟩ [0x01, 0x06, 0xA1, 0x01, 0x41, 0x07] := by
  obtain ⟨signs, -, same⟩ := signed_messages_are_separate (removeTemplate [0x07]) (removeCredential (.publicKey [0x07]))
    ⟨.two, [0x01]⟩ sized_removeTemplate sized_removeCredential
  have bytes : (removeTemplate [0x07]).message = [0x01, 0x06, 0xA1, 0x01, 0x41, 0x07] := by decide +kernel
  refine ⟨sized_removeTemplate, sized_removeCredential, fun equal => ?_, bytes ▸ signs⟩
  cases (same.1 equal).1

end SignedCall

end SecurityKey
