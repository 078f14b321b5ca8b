import SecurityKey.Proofs.Session.Diagnosis
import SecurityKey.Proofs.Session.WrittenCalls

/-!
# Diagnosed calls

The exchanges of a call tell why it ends as it does, whatever the authenticator answers.
-/

namespace SecurityKey

open Cbor (Value)

variable {α : Type}

/-! ## Calls -/

section Commands

open Operation Session

instance (command : Command) (arguments : Option Value) :
    Inspecting Failure.IsRefusal (liftM (Request.encode command arguments) : Operation Bytes) where
  makes := makes_of_frame fun _ _ => rfl
  fails session failure := by
    rw [on_liftM]
    rcases Request.encode_cases command arguments with ⟨encoded, written⟩ | ⟨refused, failed⟩
    · rw [written]
      rintro ⟨⟩
    · rw [failed]
      rintro ⟨⟩
      exact trivial

instance (domain : Bytes) (subCommand : UInt8) (params : Option Value) :
    Inspecting Failure.IsRefusal (liftM (Request.authenticated domain subCommand params) : Operation Bytes) where
  makes := makes_of_frame fun _ _ => rfl
  fails session failure := by
    rw [on_liftM]
    rcases Request.authenticated_cases domain subCommand params with ⟨message, written⟩ | ⟨refused, failed⟩
    · rw [written]
      rintro ⟨⟩
    · rw [failed]
      rintro ⟨⟩
      exact trivial

instance (command : Command) (arguments : Option Value) : AskingOnce (send command arguments) := by
  unfold send; infer_instance

instance (command : Command) (arguments : Option Value) : AskingOnce (sendForData command arguments) := by
  unfold sendForData; infer_instance

instance : Asking getInfo := by
  unfold getInfo; infer_instance

instance (parameters : CreationParameters) : Asking (makeCredential parameters) := by
  unfold makeCredential; infer_instance

instance (operation : Operation α) [Following operation] (n : Nat) : Following (repeated operation n) := by
  induction n with
  | zero => unfold repeated; infer_instance
  | succ n ih => unfold repeated; infer_instance

instance : Asking nextAssertion := by
  unfold nextAssertion; infer_instance

instance (parameters : AssertionParameters) : Asking (getAssertions parameters) := by
  unfold getAssertions; infer_instance

instance : Asking reset := by
  unfold reset; infer_instance

instance : Asking selection := by
  unfold selection; infer_instance

end Commands

section Pins

open Operation Pin

variable (protocol : PinProtocol)

instance (parameters : PinParameters) : AskingOnce (send parameters) := by
  unfold send; infer_instance

instance : Asking (getRetries protocol) := by
  unfold getRetries; infer_instance

instance : Asking (getVerificationRetries protocol) := by
  unfold getVerificationRetries; infer_instance

end Pins

section Fingerprints

open Operation Fingerprint

variable (token : Token) (timeout : Option Duration) (templateId : Bytes)

instance (parameters : BioParameters) : AskingOnce (send parameters) := by
  unfold send; infer_instance

instance : Asking getModality := by
  unfold getModality; infer_instance

instance (subCommand : UInt8) (params : Option Value) (authorization : Authorization) :
    AskingOnce (call token subCommand params authorization) := by
  cases authorization <;> unfold call <;> infer_instance

instance : Asking (getSensorInfo token) := by
  unfold getSensorInfo; infer_instance

instance : Asking (beginEnrollment token timeout) := by
  unfold beginEnrollment; infer_instance

instance : Asking (captureNext token templateId timeout) := by
  unfold captureNext; infer_instance

instance : Asking (cancelEnrollment token) := by
  unfold cancelEnrollment; infer_instance

instance (name : String) : Asking (setName token templateId name) := by
  unfold setName; infer_instance

instance : Asking (removeTemplate token templateId) := by
  unfold removeTemplate; infer_instance

end Fingerprints

section Credentials

open Operation CredentialStore

variable (token : Token)

instance (parameters : SubCommandParameters) : AskingOnce (send parameters) := by
  unfold send; infer_instance

instance (subCommand : UInt8) (params : Option Value) : AskingOnce (callSigned token subCommand params) := by
  unfold callSigned; infer_instance

instance (subCommand : UInt8) (read : Response → Result α) [∀ response, Result.Reading (read response)] :
    Asking (next subCommand read) := by
  unfold next; infer_instance

instance (continuation : UInt8) (read : Response → Result α) [∀ response, Result.Reading (read response)]
    (first : Response) (total : UInt64) : Following (collect continuation read first total) := by
  unfold collect; infer_instance

instance : Asking (getUsage token) := by
  unfold getUsage; infer_instance

instance (credential : CredentialDescriptor) : Asking (remove token credential) := by
  unfold remove; infer_instance

instance (credential : CredentialDescriptor) (user : UserEntity) : Asking (updateUser token credential user) := by
  unfold updateUser; infer_instance

end Credentials

section Settings

open Operation Settings

variable (token : Option Token)

instance (parameters : SubCommandParameters) : AskingOnce (send parameters) := by
  unfold send; infer_instance

instance (subCommand : UInt8) (params : Option Value) : AskingOnce (call token subCommand params) := by
  cases token <;> unfold call <;> infer_instance

instance : Asking (enableEnterpriseAttestation token) := by
  unfold enableEnterpriseAttestation; infer_instance

instance : Asking (toggleAlwaysVerify token) := by
  unfold toggleAlwaysVerify; infer_instance

instance (length : Option UInt64) (rpIds : Option (List String)) (forceChange : Bool) :
    Asking (setMinPinLength token length rpIds forceChange) := by
  unfold setMinPinLength; infer_instance

instance (id : UInt64) : Asking (vendorCommand token id) := by
  unfold vendorCommand; infer_instance

end Settings

section Lists

open Operation

variable (token : Token) (session : Session)

theorem Fingerprint.told_listTemplates :
    ∃ made, (listTemplates token).Makes made session ∧
      Diagnosed Failure.IsRefusal (some (0x2C, .empty)) made ((listTemplates token).on session).1 := by
  rw [listTemplates_eq]
  have caught : unlisted (.status 0x2C) = pure .empty := rfl
  have passed (failure : Failure) (other : failure ≠ .status 0x2C) : unlisted failure = throw failure := by
    cases failure with
    | status code => exact if_neg fun same => other (congrArg Failure.status same)
    | _ => rfl
  obtain ⟨made, makes, told⟩ :=
    told_tryCatch (do templatesOf (← call token 0x04 none .signed)) caught passed (quiet session)
  exact ⟨made, makes.unattended, told⟩

namespace CredentialStore

theorem told_begun (request : Operation (Option Response)) [AskingOnce request] :
    ∃ made, (begun request).Makes made session ∧
      Diagnosed Failure.IsRefusal (some (0x2E, none)) made ((begun request).on session).1 := by
  refine told_tryCatch request rfl (fun failure other => ?_) session
  cases failure with
  | status code => exact if_neg fun same => other (congrArg Failure.status same)
  | _ => rfl

/-- A listing begins with a request to which a status may say that there is nothing to list. -/
theorem told_listing (request : Operation (Option Response)) [AskingOnce request]
    {next : Option Response → Operation (List α)} (nothing : next none = pure [])
    (follows : ∀ first, Following (next first)) :
    ∃ made, (begun request >>= next).Makes made session ∧
      Diagnosed Failure.IsRefusal (some (0x2E, [])) made ((begun request >>= next).on session).1 := by
  obtain ⟨made, makes, told⟩ := told_begun session request
  exact told_bind (.absence nothing) follows makes told

theorem told_listRelyingParties :
    ∃ made, (listRelyingParties token).Makes made session ∧
      Diagnosed Failure.IsRefusal (some (0x2E, [])) made ((listRelyingParties token).on session).1 := by
  refine told_listing session (callSigned token 0x02 none) rfl fun first => ?_
  cases first with
  | none => infer_instance
  | some first =>
      refine following_bind fun total => ?_
      split <;> infer_instance

theorem told_listCredentials (rpIdHash : Bytes) :
    ∃ made, (listCredentials token rpIdHash).Makes made session ∧
      Diagnosed Failure.IsRefusal (some (0x2E, [])) made ((listCredentials token rpIdHash).on session).1 := by
  refine told_listing session _ rfl fun first => ?_
  cases first <;> infer_instance

end CredentialStore

end Lists

namespace Call

variable {Reply : Type}

/-- The calls that ask the authenticator for something and report what it answers. The other ones check something before
that, agree on a key, or keep the state of an enrollment. -/
def IsDirect : Call Reply → Prop
  | choosePin _ | agree _ | handshake _ _ | requireModality _ | capture _ _ _ | abandon _ | requireCredentials
  | requireSettings => False
  | _ => True

/-- The status that says that there is nothing to list, and the empty list. -/
def absence? : Call Reply → Option (UInt8 × Reply)
  | listTemplates _ => some (0x2C, .empty)
  | listRelyingParties _ => some (0x2E, [])
  | listCredentials _ _ => some (0x2E, [])
  | _ => none

/-- The arguments that the caller gives to a direct call. The other ones make their arguments themselves. -/
def given? : Call Reply → Option Value
  | send _ arguments => arguments
  | makeCredential parameters => some parameters.toValue
  | getAssertions parameters => some parameters.toValue
  | sendPin parameters => some parameters.toValue
  | sendFingerprint parameters => some parameters.toValue
  | sendCredential parameters => some parameters.toValue
  | sendSettings parameters => some parameters.toValue
  | _ => none

/-- A direct call is refused with a failure: the given arguments have no encoding, for a key of a map in them. -/
def Refuses (call : Call Reply) (failure : Failure) : Prop :=
  ∃ arguments key, call.given? = some arguments ∧ arguments.canonical = .error key ∧ failure = .encoding (.mapKey key)

variable {call : Call Reply} {session : Session}

theorem writing_perform {arguments : Value} (h : call.given? = some arguments) :
    Operation.Writing arguments call.perform := by
  cases call <;> cases h
  case send command => exact inferInstanceAs (Operation.Writing arguments (Session.send command (some arguments)))
  case makeCredential => unfold perform Session.makeCredential Session.sendForData; infer_instance
  case getAssertions => unfold perform Session.getAssertions Session.sendForData; infer_instance
  case sendPin => unfold perform Pin.send; infer_instance
  case sendFingerprint => unfold perform Fingerprint.send; infer_instance
  case sendCredential => unfold perform CredentialStore.send; infer_instance
  case sendSettings => unfold perform Settings.send; infer_instance

/-- A direct call that is given no arguments is not refused. -/
theorem committed_perform (direct : call.IsDirect) (h : call.given? = none) : Operation.Committed call.perform := by
  have signed {Reply : Type} (call : SignedCall Reply) (token : Token) :
      Operation.Committed (call.withToken token).perform := inferInstance
  have changed {Reply : Type} (call : SignedCall Reply) (token : Option Token) :
      Operation.Committed (Settings.call token call.subCommand call.params) :=
    Settings.committed_call token call.subCommand call.canonical_params
  cases call with
  | send command arguments =>
      cases h
      exact inferInstanceAs (Operation.Committed (Session.send command none))
  | makeCredential | getAssertions | sendPin | sendFingerprint | sendCredential | sendSettings => cases h
  | choosePin | agree | handshake | requireModality | capture | abandon | requireCredentials | requireSettings =>
      exact absurd direct id
  | getInfo | reset | selection | getRetries | getVerificationRetries | getModality | getSensorInfo | cancelEnrollment =>
      unfold perform; infer_instance
  | beginEnrollment token timeout => exact signed (.beginEnrollment timeout) token
  | captureNext token templateId timeout => exact signed (.captureNext templateId timeout) token
  | listTemplates token => exact signed .listTemplates token
  | setName token templateId name => exact signed (.setName templateId name) token
  | removeTemplate token templateId => exact signed (.removeTemplate templateId) token
  | getUsage token => exact signed .getUsage token
  | listRelyingParties token => exact signed .listRelyingParties token
  | listCredentials token rpIdHash => exact signed (.listCredentials rpIdHash) token
  | removeCredential token credential => exact signed (.removeCredential credential) token
  | updateUser token credential user => exact signed (.updateUser credential user) token
  | enableEnterpriseAttestation token => exact (changed .enableEnterpriseAttestation token).bind fun _ => inferInstance
  | toggleAlwaysVerify token => exact (changed .toggleAlwaysVerify token).bind fun _ => inferInstance
  | setMinPinLength token length rpIds forceChange =>
      exact (changed (.setMinPinLength length rpIds forceChange) token).bind fun _ => inferInstance
  | vendorCommand token id => exact changed (.vendorCommand id) token

/-- The arguments that are refused are those without an encoding. -/
theorem refused_iff (direct : call.IsDirect) {failure : Failure} :
    (call.perform.on session).1 = .error failure ∧ failure.IsRefusal ↔ call.Refuses failure := by
  constructor
  · rintro ⟨failed, refusal⟩
    cases given : call.given? with
    | none =>
        have := committed_perform direct given
        exact absurd refusal ((Operation.Committed.unrefused session).not_refusal failure failed)
    | some arguments =>
        have writing := writing_perform given
        cases written : arguments.canonical with
        | ok encoded =>
            have := writing.committed written
            exact absurd refusal ((Operation.Committed.unrefused session).not_refusal failure failed)
        | error key =>
            cases (writing.refused written session).symm.trans failed
            exact ⟨arguments, key, given, written, rfl⟩
  · rintro ⟨arguments, key, given, written, rfl⟩
    exact ⟨(writing_perform given).refused written session, trivial⟩

theorem told_perform (direct : call.IsDirect) (session : Session) : ∃ made, call.perform.Makes made session ∧
    Diagnosed Failure.IsRefusal call.absence? made (call.perform.on session).1 := by
  cases call with
  | choosePin | agree | handshake | requireModality | capture | abandon | requireCredentials | requireSettings =>
      exact absurd direct id
  | listTemplates token => exact Fingerprint.told_listTemplates token session
  | listRelyingParties token => exact CredentialStore.told_listRelyingParties token session
  | listCredentials token rpIdHash => exact CredentialStore.told_listCredentials token session rpIdHash
  | _ => unfold Call.perform; exact Operation.Asking.told session

end Call

/-- Whatever the authenticator answers, the exchanges of a call tell why it ends as it does: a failure is that of the
link, or the answer was empty, or it had the status that is reported, or it was malformed after a status of success.
Only the status for an empty list is not reported, and only in answer to the request that begins the listing. There are
no exchanges exactly when the given arguments have no encoding, and then that is the failure. -/
theorem exchanges_tell_why {Reply : Type} (call : Call Reply) (direct : call.IsDirect) (session : Session) :
    ∃ made, call.perform.Makes made session ∧ Diagnosed call.Refuses call.absence? made (call.perform.on session).1 ∧
      (made = [] ↔ ∃ failure, call.Refuses failure) := by
  obtain ⟨made, makes, told⟩ := call.told_perform direct session
  refine ⟨made, makes, told.imp fun failure failed refusal => (Call.refused_iff direct).1 ⟨failed, refusal⟩, ?_⟩
  rw [told.made_eq_nil_iff]
  exact exists_congr fun failure => Call.refused_iff direct

/-- A session with an authenticator that answers the next request with the status for a lack of credentials. -/
def emptySession : Session :=
  ⟨.hid ⟨[.message (.ofCommand .cbor [0x2E])], [], none⟩ none, {}, {}, ⟨fun _ => 0, 0⟩⟩

/-- A request for the credentials of a relying party. -/
def listing : Call (List CredentialStore.StoredCredential) :=
  .listCredentials ⟨.two, List.replicate 32 0x11⟩ (List.replicate 32 0x22)

theorem listing_of_emptySession : listing.IsDirect ∧ (listing.perform.on emptySession).1 = .ok [] ∧
    ∃ made, listing.perform.Makes made emptySession ∧ Diagnosed listing.Refuses listing.absence? made (.ok []) ∧
      made ≠ [] := by
  have direct : listing.IsDirect := trivial
  have empty : (listing.perform.on emptySession).1 = .ok [] := rfl
  obtain ⟨made, makes, told, none⟩ := exchanges_tell_why listing direct emptySession
  refine ⟨direct, empty, made, makes, empty ▸ told, fun same => ?_⟩
  obtain ⟨failure, arguments, key, given, -⟩ := none.1 same
  cases given

end SecurityKey
