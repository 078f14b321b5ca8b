import SecurityKey.Proofs.Pin.Scope
import SecurityKey.Proofs.Session.Calls
import SecurityKey.Proofs.Session.Refusal
import SecurityKey.Proofs.U2f.Client

/-!
# Refused calls

A call is refused, for its arguments or for what the authenticator lacks, before anything is sent: once a request is on
its way, no later step fails like that.
-/

namespace SecurityKey

open Cbor (Value)

/-! ## Commands -/

section Commands

open Operation Session

instance (command : Command) : Result.Unrefused (Request.encode command none) :=
  inferInstanceAs (Result.Unrefused (.ok _))

instance (command : Command) (arguments : Option Value) : Guarded (send command arguments) := by
  unfold send; infer_instance

theorem committed_send {command : Command} {arguments : Option Value}
    (h : Result.Unrefused (Request.encode command arguments)) : Committed (send command arguments) := by
  unfold send; infer_instance

instance (command : Command) : Committed (send command none) :=
  committed_send inferInstance

instance (command : Command) (arguments : Option Value) : Guarded (sendForData command arguments) := by
  unfold sendForData; infer_instance

instance : Guarded getInfo := by
  unfold getInfo; infer_instance

instance (parameters : CreationParameters) : Guarded (makeCredential parameters) := by
  unfold makeCredential; infer_instance

instance {α : Type} (operation : Operation α) [Committed operation] (n : Nat) : Committed (repeated operation n) := by
  induction n with
  | zero => unfold repeated; infer_instance
  | succ n ih => unfold repeated; infer_instance

instance : Committed nextAssertion := by
  unfold nextAssertion sendForData; infer_instance

instance (parameters : AssertionParameters) : Guarded (getAssertions parameters) := by
  unfold getAssertions; infer_instance

instance : Guarded reset := by
  unfold reset; infer_instance

instance : Guarded selection := by
  unfold selection; infer_instance

end Commands

/-! ## PINs -/

namespace Pin

open Operation

variable {protocol : PinProtocol} {agreement : PinProtocol.Agreement}

/-- An agreement whose platform key has an encoding. -/
class Writable (agreement : PinProtocol.Agreement) : Prop where
  order : agreement.platformKey.order = (agreement.platformKey, none)

theorem writable_of_agree_on {session after : Session} (h : (agree protocol).on session = (.ok agreement, after)) :
    Writable agreement := by
  rw [agree_on] at h
  cases given : givenKey protocol session with
  | error failure =>
      rw [given] at h
      cases h
  | ok key =>
      simp only [given] at h
      cases met : protocol.agree (platformKey session) key with
      | error failure =>
          rw [met] at h
          cases h
      | ok agreed =>
          rw [met] at h
          cases h
          have accepted : Accepted protocol session agreement := ⟨key, given, met⟩
          exact ⟨Crypto.CoseKey.order_ofPoint accepted.ofPoint⟩

instance (parameters : PinParameters) : Guarded (send parameters) := by
  unfold send; infer_instance

theorem committed_send {parameters : PinParameters} (h : parameters.Ordered) : Committed (send parameters) :=
  SecurityKey.committed_send (by rw [h.encode]; infer_instance)

instance (version : Option UInt8) (subCommand : UInt8) (code newPinEnc pinHashEnc : Option Bytes)
    (permissions : Option UInt8) (rpId : Option String) [h : Writable agreement] :
    Committed (send {
      pinUvAuthProtocol := version, subCommand, keyAgreement := some agreement.platformKey, pinUvAuthParam := code,
      newPinEnc, pinHashEnc, permissions, rpId }) :=
  committed_send fun key same => by
    cases same
    exact h.order

instance (protocol : PinProtocol) : Committed (agree protocol) := by
  have asked : Committed (send (parameters protocol 0x02)) := committed_send (ordered_keyRequest protocol)
  unfold agree; infer_instance

theorem committed_agree_bind {α : Type} {next : PinProtocol.Agreement → Operation α}
    (second : ∀ agreement, Writable agreement → Committed (next agreement)) : Committed (agree protocol >>= next) :=
  committed_bind fun _ agreement _ agreed => second agreement (writable_of_agree_on agreed)

instance (secret plain : Bytes) : Committed (encrypt protocol secret plain) := by
  unfold encrypt; infer_instance

instance (parameters : PinParameters) [Writable agreement] : Committed (requestToken protocol agreement parameters) := by
  unfold requestToken; infer_instance

instance (proof : Bytes) (final : Bytes → PinParameters) : Committed (tokenBy protocol proof final) :=
  committed_agree_bind fun _ _ => inferInstance

instance (permissions : Permissions) (rpId : Option String) : Committed (verifiedToken protocol permissions rpId) :=
  committed_agree_bind fun _ _ => inferInstance

instance (padded : Bytes) : Committed (setTo protocol padded) := by
  refine committed_agree_bind fun agreement writable => ?_
  unfold setParameters; infer_instance

instance (proof padded : Bytes) : Committed (changeTo protocol proof padded) := by
  refine committed_agree_bind fun agreement writable => ?_
  unfold changeParameters; infer_instance

section Sealing

variable {session : Session} {pin current new : String} (secret : Bytes)

/-- Sealing a PIN after the key agreement refuses it exactly when it would have been refused before. -/
theorem setMessage_refused_iff :
    (∃ failure, ((setMessage protocol secret pin).on session).1 = .error failure ∧ failure.IsRefusal) ↔
      ¬IsAcceptable pin := by
  constructor
  · rintro ⟨failure, failed, refusal⟩ acceptable
    have committed : Committed (setMessage protocol secret pin) := by
      rw [setMessage_eq acceptable]
      infer_instance
    exact (committed.unrefused session).not_refusal failure failed refusal
  · intro unacceptable
    obtain ⟨fault, refused⟩ := preparePadded_eq_error unacceptable
    exact ⟨.invalidPin fault, by rw [setMessage, refused]; rfl, trivial⟩

/-- Sealing two PINs after the key agreement refuses them exactly when one of them would have been refused before. -/
theorem changeMessage_refused_iff :
    (∃ failure, ((changeMessage protocol secret current new).on session).1 = .error failure ∧ failure.IsRefusal) ↔
      ¬(IsAcceptable current ∧ IsAcceptable new) := by
  constructor
  · rintro ⟨failure, failed, refusal⟩ ⟨acceptable, acceptable'⟩
    have committed : Committed (changeMessage protocol secret current new) := by
      rw [changeMessage_eq acceptable acceptable']
      infer_instance
    exact (committed.unrefused session).not_refusal failure failed refusal
  · intro unacceptable
    by_cases acceptable' : IsAcceptable new
    · obtain ⟨fault, refused⟩ := hash_eq_error fun acceptable => unacceptable ⟨acceptable, acceptable'⟩
      exact ⟨.invalidPin fault, by rw [changeMessage, preparePadded_eq acceptable', refused]; rfl, trivial⟩
    · obtain ⟨fault, refused⟩ := preparePadded_eq_error acceptable'
      exact ⟨.invalidPin fault, by rw [changeMessage, refused]; rfl, trivial⟩

end Sealing

/-- An operation that is allowed is not refused any more. -/
theorem unrefused_perform {handshake : Handshake} {session : Session} (allowed : handshake.IsAllowed session.info) :
    Result.Unrefused ((handshake.perform protocol).on session).1 := by
  cases handshake with
  | token pin permissions rpId =>
      obtain ⟨knows, acceptable, scope⟩ := allowed
      exact unrefused_bind_of_on_eq (getToken_on knows acceptable scope)
  | verification permissions rpId => exact unrefused_bind_of_on_eq (getTokenByVerification_on allowed)
  | setFirst pin =>
      obtain ⟨knows, acceptable⟩ := allowed
      exact unrefused_bind_of_on_eq (setFirst_on knows acceptable)
  | change current new =>
      obtain ⟨knows, acceptable, acceptable'⟩ := allowed
      exact unrefused_bind_of_on_eq (change_on knows acceptable acceptable')

instance (protocol : Option PinProtocol) : Looking (choose protocol) := by
  cases protocol <;> exact ⟨fun _ => rfl⟩

instance (protocol : PinProtocol) : Guarded (getRetries protocol) := by
  unfold getRetries; infer_instance

instance (protocol : PinProtocol) : Guarded (getVerificationRetries protocol) := by
  unfold getVerificationRetries; infer_instance

instance (handshake : Handshake) : Guarded (handshake.perform protocol) where
  unchanged session failure failed refusal := by
    -- The checks stand first, so they are either all passed or decide the result on the session as it was.
    by_cases allowed : handshake.IsAllowed session.info
    · exact absurd refusal ((unrefused_perform allowed).not_refusal failure failed)
    · obtain ⟨_, _, refused⟩ := perform_of_not_allowed protocol allowed
      rw [refused]

end Pin

/-! ## Fingerprints -/

section Fingerprints

open Operation Fingerprint

variable (token : Token) (timeout : Option Duration) (templateId : Bytes)

instance (parameters : BioParameters) : Guarded (send parameters) := by
  unfold send; infer_instance

instance : Guarded getModality := by
  unfold getModality; infer_instance

instance (modality : UInt8) : Guarded (requireModality modality) := by
  unfold requireModality; infer_instance

instance (subCommand : UInt8) (params : Option Value) (authorization : Authorization) :
    Guarded (call token subCommand params authorization) := by
  cases authorization <;> unfold call <;> infer_instance

instance : Guarded (getSensorInfo token) := by
  unfold getSensorInfo; infer_instance

instance : Guarded (beginEnrollment token timeout) := by
  unfold beginEnrollment; infer_instance

instance : Guarded (captureNext token templateId timeout) := by
  unfold captureNext; infer_instance

instance : Guarded (cancelEnrollment token) := by
  unfold cancelEnrollment; infer_instance

instance (state : Enrollment) : Guarded (takeSample token timeout state) := by
  unfold takeSample
  cases state.templateId? <;> infer_instance

instance : Guarded (listTemplates token) := by
  rw [listTemplates_eq]
  have listed : Guarded (tryCatch (do templatesOf (← call token 0x04 none .signed)) unlisted) :=
    guarded_tryCatch (fun failure => by cases failure <;> unfold unlisted <;> infer_instance)
      (committed_absent Status.invalidOption Dictionary.empty)
  infer_instance

instance (name : String) : Guarded (setName token templateId name) := by
  unfold setName; infer_instance

instance : Guarded (removeTemplate token templateId) := by
  unfold removeTemplate; infer_instance

end Fingerprints

/-! ## Credentials and settings -/

section Credentials

open Operation CredentialStore

variable (token : Token) {α : Type}

instance : Looking requireSupport := by
  unfold requireSupport; infer_instance

instance (parameters : SubCommandParameters) : Guarded (send parameters) := by
  unfold send; infer_instance

instance (subCommand : UInt8) (params : Option Value) : Guarded (callSigned token subCommand params) := by
  unfold callSigned; infer_instance

instance (subCommand : UInt8) : Committed (send { subCommand }) := by
  have encoded (command : Command) :
      Request.encode command (some (SubCommandParameters.toValue { subCommand })) = .ok _ :=
    Request.encode_pack command (by simp) fun argument mem => by
      simp only [Option.map_none, List.mem_cons, Option.some.injEq, reduceCtorEq, List.not_mem_nil, or_false] at mem
      rw [mem]
      rfl
  have sent (command : Command) : Committed (Session.send command (some (SubCommandParameters.toValue { subCommand }))) :=
    committed_send (by rw [encoded]; infer_instance)
  unfold send; infer_instance

instance (subCommand : UInt8) (read : Response → Result α) [∀ response, Result.Unrefused (read response)] :
    Committed (next subCommand read) := by
  unfold next; infer_instance

instance (continuation : UInt8) (read : Response → Result α) [∀ response, Result.Unrefused (read response)]
    (first : Response) (total : UInt64) : Committed (collect continuation read first total) := by
  unfold collect; infer_instance

instance (request : Operation (Option Response)) [Guarded request] : Guarded (begun request) := by
  unfold begun
  exact guarded_tryCatch (fun failure => by cases failure <;> infer_instance)
    (committed_absent Status.noCredentials none)

instance : Guarded (getUsage token) := by
  unfold getUsage; infer_instance

instance : Guarded (listRelyingParties token) := by
  unfold listRelyingParties
  refine guarded_bind fun first => ?_
  cases first with
  | none => infer_instance
  | some first =>
      refine committed_bind fun _ total _ _ => ?_
      split <;> infer_instance

instance (rpIdHash : Bytes) : Guarded (listCredentials token rpIdHash) := by
  unfold listCredentials
  refine guarded_bind fun first => ?_
  cases first <;> infer_instance

instance (credential : CredentialDescriptor) : Guarded (remove token credential) := by
  unfold remove; infer_instance

instance (credential : CredentialDescriptor) (user : UserEntity) : Guarded (updateUser token credential user) := by
  unfold updateUser; infer_instance

end Credentials

section Settings

open Operation Settings

variable (token : Option Token)

instance : Looking requireSupport := by
  unfold requireSupport; infer_instance

instance (parameters : SubCommandParameters) : Guarded (send parameters) := by
  unfold send; infer_instance

instance (subCommand : UInt8) (params : Option Value) : Guarded (call token subCommand params) := by
  cases token <;> unfold call <;> infer_instance

instance : Guarded (enableEnterpriseAttestation token) := by
  unfold enableEnterpriseAttestation; infer_instance

instance : Guarded (toggleAlwaysVerify token) := by
  unfold toggleAlwaysVerify; infer_instance

instance (length : Option UInt64) (rpIds : Option (List String)) (forceChange : Bool) :
    Guarded (setMinPinLength token length rpIds forceChange) := by
  unfold setMinPinLength; infer_instance

instance (id : UInt64) : Guarded (vendorCommand token id) := by
  unfold vendorCommand; infer_instance

end Settings

/-! ## Every call -/

section Enrollments

open Operation Fingerprint

variable (token : Token)

theorem unrefused_outcome (state : Enrollment) : Result.Unrefused state.outcome := by
  cases state with
  | rejected templateId remaining feedback => exact ⟨by rintro _ ⟨⟩; exact id⟩
  | _ => exact inferInstanceAs (Result.Unrefused (.ok _))

instance (timeout : Option Duration) (state : Enrollment) : Committed (capture token timeout state) where
  unrefused session := by
    by_cases finished : ∃ id, state = .complete id
    · obtain ⟨id, rfl⟩ := finished
      exact inferInstanceAs (Result.Unrefused (.ok _))
    · rw [capture_on (not_exists.1 finished)]
      rcases (takeSample token timeout state).on session with ⟨failure | _, after⟩ <;>
        exact inferInstanceAs (Result.Unrefused (.ok _))

instance : Committed (abandon token) :=
  ⟨fun _ => inferInstanceAs (Result.Unrefused (.ok _))⟩

/-- A capture that reports a refusal sent nothing. -/
theorem capture_refused {timeout : Option Duration} {state next : Enrollment} {session : Session} {failure : Failure}
    (h : ((capture token timeout state).on session).1 = .ok (next, .error failure)) (refusal : failure.IsRefusal) :
    ((capture token timeout state).on session).2 = session := by
  by_cases finished : ∃ id, state = .complete id
  · obtain ⟨id, rfl⟩ := finished
    rfl
  · rw [capture_on (not_exists.1 finished)] at h ⊢
    have unchanged (own : Failure) (failed : ((takeSample token timeout state).on session).1 = .error own)
        (refusal : own.IsRefusal) : ((takeSample token timeout state).on session).2 = session :=
      Guarded.unchanged session own failed refusal
    rcases reached : (takeSample token timeout state).on session with ⟨failed | sample, after⟩
    · rw [reached] at h unchanged
      cases h
      exact unchanged failure rfl refusal
    · rw [reached] at h
      obtain ⟨-, reported⟩ := Prod.mk.inj (Except.ok.inj h)
      exact absurd refusal ((unrefused_outcome _).not_refusal failure reported)

end Enrollments

namespace Call

variable {Reply : Type}

/-- What a reply tells about the call. A call about an enrollment gives the new state also when it failed. -/
def told : Call Reply → Reply → Result Unit
  | capture _ _ _, reply => reply.2.map fun _ => ()
  | abandon _, reply => reply.2
  | _, _ => .ok ()

instance (call : Call Reply) : Operation.Guarded call.perform := by
  cases call <;> unfold perform <;> infer_instance

theorem unchanged_of_refusal (call : Call Reply) {session : Session} {failure : Failure}
    (h : (call.perform.on session).1.bind call.told = .error failure) (refusal : failure.IsRefusal) :
    (call.perform.on session).2 = session := by
  cases failed : (call.perform.on session).1 with
  | error own =>
      rw [failed] at h
      cases h
      exact Operation.Guarded.unchanged session failure failed refusal
  | ok reply =>
      rw [failed] at h
      have h : call.told reply = .error failure := h
      cases call with
      | capture token timeout state =>
          obtain ⟨next, report⟩ := reply
          cases report with
          | ok templateId => cases h
          | error own =>
              cases h
              exact capture_refused token failed refusal
      | abandon token =>
          cases failed
          have cancelled : ((Fingerprint.cancelEnrollment token).on session).1 = .error failure := h
          have unchanged := Operation.Guarded.unchanged session failure cancelled refusal
          exact unchanged
      | _ => cases h

end Call

namespace U2f

instance (data : Bytes) : Result.Unrefused (Registration.parse data) := by
  unfold Registration.parse
  split
  · infer_instance
  · split
    · infer_instance
    · split <;> infer_instance

instance (data : Bytes) : Result.Unrefused (Signature.parse data) := by
  unfold Signature.parse
  split <;> infer_instance

theorem Call.unrefused_conclude (call : Call) (response : Except Link.Failure Bytes) :
    Result.Unrefused (call.conclude response) := by
  cases call with
  | version =>
      exact inferInstanceAs (Result.Unrefused (do
        Result.ofOption .versionText (Bytes.toText? (← response.mapError Failure.link))))
  | register client application =>
      exact inferInstanceAs (Result.Unrefused (do Registration.parse (← response.mapError Failure.link)))
  | authenticate client application keyHandle demand =>
      cases response with
      | ok body => exact inferInstanceAs (Result.Unrefused (Signature.parse body))
      | error failure =>
          have own : Result.Unrefused (.error (.link failure) : Result Signature) := ⟨by rintro _ ⟨⟩; exact id⟩
          cases failure with
          | apduStatus word =>
              have excluded : Result.Unrefused (.error .credentialExcluded : Result Signature) :=
                ⟨by rintro _ ⟨⟩; exact id⟩
              exact inferInstanceAs (Result.Unrefused
                (if demand = .checkOnly ∧ word = conditionsNotSatisfied then .error .credentialExcluded
                  else .error (.link (.apduStatus word)) : Result Signature))
          | _ => exact own

theorem Call.unchanged_of_refusal (call : Call) {link : Link} {failure : Failure}
    (h : (call.perform.on link).1 = .error failure) (refusal : failure.IsRefusal) :
    (call.perform.on link).2 = link := by
  by_cases refused : call.IsRefused
  · obtain ⟨_, refused⟩ := perform_of_refused refused
    rw [refused]
  · rw [perform_on refused] at h
    exact absurd refusal ((call.unrefused_conclude _).not_refusal failure h)

end U2f

namespace Pin

variable {protocol : PinProtocol} {handshake : Handshake} {session : Session} {pin : String}

theorem not_isAcceptable_iff : ¬IsAcceptable pin ↔ pin.length < 4 ∨ 63 < (Bytes.ofText pin).length := by
  simp only [IsAcceptable, prepare_eq_ok_iff, exists_and_left, exists_eq, and_true]
  omega

theorem Handshake.IsAllowed.acceptable (allowed : handshake.IsAllowed session.info) (mem : pin ∈ handshake.pins) :
    IsAcceptable pin := by
  cases handshake with
  | token proof permissions rpId =>
      cases List.mem_singleton.1 mem
      exact allowed.2.1
  | verification permissions rpId => cases mem
  | setFirst new =>
      cases List.mem_singleton.1 mem
      exact allowed.2
  | change current new =>
      rcases List.mem_pair.1 mem with rfl | rfl
      · exact allowed.2.1
      · exact allowed.2.2

end Pin

/-- A call that is refused leaves the session as it was: nothing was sent, and what is known about the authenticator and
the settings are the same. Of a PIN operation that is not refused for another reason, a PIN that is too short or too
long is refused, and only such a one is. -/
theorem refused_calls_send_nothing :
    (∀ {Reply : Type} (call : Call Reply) (session : Session) (failure : Failure),
      (call.perform.on session).1.bind call.told = .error failure → failure.IsRefusal →
        (call.perform.on session).2 = session) ∧
    (∀ (call : U2f.Call) (link : Link) (failure : Failure),
      (call.perform.on link).1 = .error failure → failure.IsRefusal → (call.perform.on link).2 = link) ∧
    ∀ (protocol : PinProtocol) (handshake : Pin.Handshake) (session : Session),
      let result := ((handshake.perform protocol).on session).1
      (∀ feature, result ≠ .error (.notSupported feature)) → (∀ fault, result ≠ .error (.invalidArgument fault)) →
        ((∃ fault, result = .error (.invalidPin fault)) ↔
          ∃ pin ∈ handshake.pins, pin.length < 4 ∨ 63 < (Bytes.ofText pin).length) := by
  refine ⟨fun call _ _ => call.unchanged_of_refusal, fun call _ _ => call.unchanged_of_refusal,
    fun protocol handshake session supported sound => ?_⟩
  simp only [← Pin.not_isAcceptable_iff]
  by_cases allowed : handshake.IsAllowed session.info
  · constructor
    · rintro ⟨fault, failed⟩
      exact absurd trivial ((Pin.unrefused_perform allowed).not_refusal _ failed)
    · rintro ⟨pin, mem, unacceptable⟩
      exact absurd (allowed.acceptable mem) unacceptable
  · obtain ⟨failure, refuses, refused⟩ := Pin.perform_of_not_allowed protocol allowed
    have failed : ((handshake.perform protocol).on session).1 = .error failure := congrArg Prod.fst refused
    cases failure with
    | notSupported feature => exact absurd failed (supported feature)
    | invalidArgument fault => exact absurd failed (sound fault)
    | invalidPin fault => exact ⟨fun _ => refuses, fun _ => ⟨fault, failed⟩⟩
    | _ => cases refuses

theorem short_pin_sends_nothing :
    let first := Pin.Handshake.setFirst "123"
    ((first.perform .two).on Pin.grantingSession).2 = Pin.grantingSession ∧
      ((U2f.Call.authenticate [] [] (List.replicate 256 0) .presence).perform.on Pin.grantingSession.link).2 =
        Pin.grantingSession.link ∧
      ∃ fault, ((first.perform .two).on Pin.grantingSession).1 = .error (.invalidPin fault) := by
  intro first
  obtain ⟨calls, signatures, pins⟩ := refused_calls_send_nothing
  have failed : ((first.perform .two).on Pin.grantingSession).1 = .error (.invalidPin .tooShort) := rfl
  have long : ((U2f.Call.authenticate [] [] (List.replicate 256 0) .presence).perform.on Pin.grantingSession.link).1 =
      .error (.invalidArgument (.keyHandleTooLong 256)) := by
    simp only [U2f.Call.perform, U2f.authenticate, List.length_replicate, Nat.reduceLT, if_true]
    rfl
  refine ⟨calls (.handshake .two first) _ (.invalidPin .tooShort) rfl trivial, signatures _ _ _ long trivial, ?_⟩
  refine (pins .two first Pin.grantingSession (fun feature => ?_) fun fault => ?_).2
    ⟨"123", List.mem_singleton.2 rfl, .inl (by decide)⟩
  · rw [failed]
    simp
  · rw [failed]
    simp

end SecurityKey
