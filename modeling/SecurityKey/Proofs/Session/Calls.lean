import SecurityKey.Proofs.Fingerprint.Enrollment
import SecurityKey.Proofs.Pin.Handshake
import SecurityKey.Proofs.Session.Composition

/-!
# Calls

What a caller can do on a session, as data, and what holds of all of it: a call learns nothing of the link but how the
exchanges end that it makes.
-/

namespace SecurityKey

open Cbor (Value)

open Operation

/-- What a caller can do on a session, with the kind of reply. -/
inductive Call : Type → Type where
  | send (command : Command) (arguments : Option Value) : Call (Option Response)
  | getInfo : Call Info
  | makeCredential (parameters : CreationParameters) : Call Attestation
  | getAssertions (parameters : AssertionParameters) : Call (List Assertion)
  | reset : Call Unit
  | selection : Call Unit
  | sendPin (parameters : PinParameters) : Call (Option Response)
  | sendFingerprint (parameters : BioParameters) : Call (Option Response)
  | sendCredential (parameters : SubCommandParameters) : Call (Option Response)
  | sendSettings (parameters : SubCommandParameters) : Call (Option Response)
  | choosePin (protocol : Option PinProtocol) : Call PinProtocol
  | agree (protocol : PinProtocol) : Call PinProtocol.Agreement
  | handshake (protocol : PinProtocol) (sealed : Pin.Handshake) : Call (Option Token)
  | getRetries (protocol : PinProtocol) : Call RetryState
  | getVerificationRetries (protocol : PinProtocol) : Call RetryState
  | getModality : Call UInt8
  | requireModality (modality : UInt8) : Call Unit
  | getSensorInfo (token : Token) : Call Fingerprint.SensorInfo
  | beginEnrollment (token : Token) (timeout : Option Duration) : Call (Bytes × Fingerprint.Sample)
  | captureNext (token : Token) (templateId : Bytes) (timeout : Option Duration) : Call Fingerprint.Sample
  | cancelEnrollment (token : Token) : Call Unit
  | capture (token : Token) (timeout : Option Duration) (state : Fingerprint.Enrollment) :
      Call (Fingerprint.Enrollment × Result (Option Bytes))
  | abandon (token : Token) : Call (Fingerprint.Enrollment × Result Unit)
  | listTemplates (token : Token) : Call (Dictionary Bytes (Option String))
  | setName (token : Token) (templateId : Bytes) (name : String) : Call Unit
  | removeTemplate (token : Token) (templateId : Bytes) : Call Unit
  | requireCredentials : Call Unit
  | getUsage (token : Token) : Call CredentialStore.Usage
  | listRelyingParties (token : Token) : Call (List CredentialStore.RelyingParty)
  | listCredentials (token : Token) (rpIdHash : Bytes) : Call (List CredentialStore.StoredCredential)
  | removeCredential (token : Token) (credential : CredentialDescriptor) : Call Unit
  | updateUser (token : Token) (credential : CredentialDescriptor) (user : UserEntity) : Call Unit
  | requireSettings : Call Unit
  | enableEnterpriseAttestation (token : Option Token) : Call Unit
  | toggleAlwaysVerify (token : Option Token) : Call Unit
  | setMinPinLength (token : Option Token) (length : Option UInt64) (rpIds : Option (List String))
      (forceChange : Bool) : Call Unit
  | vendorCommand (token : Option Token) (id : UInt64) : Call (Option Response)

namespace Call

variable {Reply : Type}

/-- Does what a call says. -/
def perform : Call Reply → Operation Reply
  | send command arguments => Session.send command arguments
  | getInfo => Session.getInfo
  | makeCredential parameters => Session.makeCredential parameters
  | getAssertions parameters => Session.getAssertions parameters
  | reset => Session.reset
  | selection => Session.selection
  | sendPin parameters => Pin.send parameters
  | sendFingerprint parameters => Fingerprint.send parameters
  | sendCredential parameters => CredentialStore.send parameters
  | sendSettings parameters => Settings.send parameters
  | choosePin protocol => Pin.choose protocol
  | agree protocol => Pin.agree protocol
  | handshake protocol sealed => sealed.perform protocol
  | getRetries protocol => Pin.getRetries protocol
  | getVerificationRetries protocol => Pin.getVerificationRetries protocol
  | getModality => Fingerprint.getModality
  | requireModality modality => Fingerprint.requireModality modality
  | getSensorInfo token => Fingerprint.getSensorInfo token
  | beginEnrollment token timeout => Fingerprint.beginEnrollment token timeout
  | captureNext token templateId timeout => Fingerprint.captureNext token templateId timeout
  | cancelEnrollment token => Fingerprint.cancelEnrollment token
  | capture token timeout state => Fingerprint.capture token timeout state
  | abandon token => Fingerprint.abandon token
  | listTemplates token => Fingerprint.listTemplates token
  | setName token templateId name => Fingerprint.setName token templateId name
  | removeTemplate token templateId => Fingerprint.removeTemplate token templateId
  | requireCredentials => CredentialStore.requireSupport
  | getUsage token => CredentialStore.getUsage token
  | listRelyingParties token => CredentialStore.listRelyingParties token
  | listCredentials token rpIdHash => CredentialStore.listCredentials token rpIdHash
  | removeCredential token credential => CredentialStore.remove token credential
  | updateUser token credential user => CredentialStore.updateUser token credential user
  | requireSettings => Settings.requireSupport
  | enableEnterpriseAttestation token => Settings.enableEnterpriseAttestation token
  | toggleAlwaysVerify token => Settings.toggleAlwaysVerify token
  | setMinPinLength token length rpIds forceChange => Settings.setMinPinLength token length rpIds forceChange
  | vendorCommand token id => Settings.vendorCommand token id

end Call

/-! ## Listing and capturing -/

namespace Fingerprint

/-- What follows a failure to list the templates. -/
def unlisted : Failure → Operation (Dictionary Bytes (Option String))
  | .status code => if code = Status.invalidOption then pure .empty else throw (.status code)
  | failure => throw failure

theorem listTemplates_eq (token : Token) : listTemplates token =
    unattended (tryCatch (do templatesOf (← call token 0x04 none .signed)) unlisted) := by
  unfold listTemplates
  congr 1
  funext session
  show Operation.on _ session = Operation.on _ session
  simp only [on_bind, on_tryCatch, on_liftM]
  rcases (call token 0x04 none .signed).on session with ⟨failure | response, after⟩
  on_goal 2 =>
    simp only
    rcases templatesOf response with failure | templates
    on_goal 2 => rfl
  all_goals
    cases failure with
    | status code =>
        simp only [unlisted]
        by_cases invalid : code = Status.invalidOption <;> simp only [invalid, if_true, if_false] <;> rfl
    | _ => rfl

/-- What a capture makes of a sample. -/
def report (state : Enrollment) : Result (Bytes × Sample) → Operation (Enrollment × Result (Option Bytes))
  | .ok (templateId, sample) => pure (state.advance templateId sample, (state.advance templateId sample).outcome)
  | .error failure => pure (state, .error failure)

theorem capture_on_report {token : Token} {timeout : Option Duration} {state : Enrollment}
    (unfinished : ∀ id, state ≠ .complete id) (session : Session) :
    (capture token timeout state).on session =
      (report state ((takeSample token timeout state).on session).1).on
        ((takeSample token timeout state).on session).2 := by
  rw [capture_on unfinished]
  rcases (takeSample token timeout state).on session with ⟨_ | _, _⟩ <;> rfl

end Fingerprint

/-! ## Where decisions are taken -/

namespace Pin

variable (protocol : PinProtocol)

theorem getToken_eq (pin : String) (permissions : Option Permissions) (rpId : Option String) :
    getToken protocol pin permissions rpId = unattended (do
      requireSupport
      let canScope ← Decision.scopedTokens.take
      if canScope ∧ permissions.isNone ∧ rpId.isSome then throw (.invalidArgument .rpIdWithoutPermissions)
      let hash ← Pin.hash pin
      let agreement ← agree protocol
      let pinHashEnc ← encrypt protocol agreement.secret hash
      requestToken protocol agreement (tokenParameters protocol canScope permissions rpId pinHashEnc)) := rfl

theorem getTokenByVerification_eq (permissions : Permissions) (rpId : Option String) :
    getTokenByVerification protocol permissions rpId = (do
      if !(← Decision.scopedTokens.take) then throw (.notSupported .uvToken)
      let agreement ← agree protocol
      requestToken protocol agreement
        { parameters protocol 0x06 with permissions := some permissions.byte, rpId }) := rfl

end Pin

theorem Fingerprint.requireModality_eq (requested : UInt8) : requireModality requested = unattended (do
    if !(← Decision.enrollment.take) then throw (.notSupported .bioEnrollment)
    let reported ← getModality
    if reported ≠ requested then throw (.modality requested reported)) := rfl

theorem Signer.send_fingerprints (arguments : Value) : fingerprints.send arguments = (do
    let command ← Decision.take (.command fingerprints)
    Session.send command (some arguments)) := rfl

theorem Signer.send_credentials (arguments : Value) : credentials.send arguments = unattended (do
    let command ← Decision.take (.command credentials)
    Session.send command (some arguments)) := rfl

/-! ## Every call but one is put together

The one that asks for the info again keeps what it is told. Where another one looks at what is known of the
authenticator, it takes a decision. -/

section Commands

open Session

variable {α : Type}

instance (command : Command) (arguments : Option Value) : Composed (send command arguments) := by
  unfold send; infer_instance

instance (command : Command) (arguments : Option Value) : Composed (sendForData command arguments) := by
  unfold sendForData; infer_instance

instance (signer : Signer) (arguments : Value) : Composed (signer.send arguments) := by
  cases signer with
  | fingerprints => rw [Signer.send_fingerprints]; infer_instance
  | credentials => rw [Signer.send_credentials]; infer_instance
  | settings => unfold Signer.send; infer_instance

instance : Orderly getInfo := by
  unfold getInfo; infer_instance

instance (parameters : CreationParameters) : Composed (makeCredential parameters) := by
  unfold makeCredential; infer_instance

instance (operation : Operation α) [Composed operation] (n : Nat) : Composed (repeated operation n) := by
  induction n with
  | zero => unfold repeated; infer_instance
  | succ n ih => unfold repeated; infer_instance

instance : Composed nextAssertion := by
  unfold nextAssertion; infer_instance

instance (parameters : AssertionParameters) : Composed (getAssertions parameters) := by
  unfold getAssertions; infer_instance

instance : Composed reset := by
  unfold reset; infer_instance

instance : Composed selection := by
  unfold selection; infer_instance

end Commands

section Pins

open Pin

variable (protocol : PinProtocol)

instance (parameters : PinParameters) : Composed (send parameters) := by
  unfold send; infer_instance

instance (protocol : Option PinProtocol) : Composed (choose protocol) := by
  cases protocol with
  | some protocol => exact inferInstanceAs (Composed (pure protocol))
  | none => exact inferInstanceAs (Composed (do liftM (← Decision.protocol.take)))

instance : Composed requireSupport :=
  inferInstanceAs (Composed (do if !(← Decision.pins.take) then throw (.notSupported .clientPin)))

instance : Composed (agree protocol) := by
  unfold agree; infer_instance

instance (secret plain : Bytes) : Composed (encrypt protocol secret plain) := by
  unfold encrypt; infer_instance

instance (agreement : PinProtocol.Agreement) (parameters : PinParameters) :
    Composed (requestToken protocol agreement parameters) := by
  unfold requestToken; infer_instance

instance (pin : String) (permissions : Option Permissions) (rpId : Option String) :
    Composed (getToken protocol pin permissions rpId) := by
  rw [getToken_eq]; infer_instance

instance (permissions : Permissions) (rpId : Option String) :
    Composed (getTokenByVerification protocol permissions rpId) := by
  rw [getTokenByVerification_eq]; infer_instance

instance (secret : Bytes) (pin : String) : Composed (setMessage protocol secret pin) := by
  unfold setMessage; infer_instance

instance (secret : Bytes) (current new : String) : Composed (changeMessage protocol secret current new) := by
  unfold changeMessage; infer_instance

instance (handshake : Handshake) : Composed (handshake.perform protocol) := by
  cases handshake with
  | token pin permissions rpId => unfold Handshake.perform; infer_instance
  | verification permissions rpId => unfold Handshake.perform; infer_instance
  | setFirst pin => unfold Handshake.perform setFirst; infer_instance
  | change current new => unfold Handshake.perform change; infer_instance

instance : Composed (getRetries protocol) := by
  unfold getRetries; infer_instance

instance : Composed (getVerificationRetries protocol) := by
  unfold getVerificationRetries; infer_instance

end Pins

section Fingerprints

open Fingerprint

variable (token : Token) (timeout : Option Duration) (templateId : Bytes)

instance (parameters : BioParameters) : Composed (send parameters) :=
  inferInstanceAs (Composed (Signer.fingerprints.send parameters.toValue))

instance : Composed getModality := by
  unfold getModality; infer_instance

instance (modality : UInt8) : Composed (requireModality modality) := by
  rw [requireModality_eq]; infer_instance

instance (subCommand : UInt8) (params : Option Value) (authorization : Authorization) :
    Composed (call token subCommand params authorization) := by
  cases authorization <;> unfold call <;> infer_instance

instance : Composed (getSensorInfo token) := by
  unfold getSensorInfo; infer_instance

instance : Composed (beginEnrollment token timeout) := by
  unfold beginEnrollment; infer_instance

instance : Composed (captureNext token templateId timeout) := by
  unfold captureNext; infer_instance

instance : Composed (cancelEnrollment token) := by
  unfold cancelEnrollment; infer_instance

instance (state : Enrollment) : Composed (takeSample token timeout state) := by
  unfold takeSample
  cases state.templateId? <;> infer_instance

instance (state : Enrollment) : Composed (capture token timeout state) := by
  by_cases finished : ∃ id, state = .complete id
  · obtain ⟨id, rfl⟩ := finished
    exact inferInstanceAs (Composed (pure _))
  · refine composed_of_follow (takeSample token timeout state) (report state) (fun result => ?_)
      (capture_on_report (not_exists.1 finished))
    cases result <;> unfold report <;> infer_instance

instance : Composed (abandon token) :=
  composed_of_follow (cancelEnrollment token) (fun result => pure (.notStarted, result))
    (fun _ => inferInstance) fun _ => rfl

instance (failure : Failure) : Composed (unlisted failure) := by
  cases failure <;> unfold unlisted <;> infer_instance

instance : Composed (listTemplates token) := by
  rw [listTemplates_eq]
  infer_instance

instance (name : String) : Composed (setName token templateId name) := by
  unfold setName; infer_instance

instance : Composed (removeTemplate token templateId) := by
  unfold removeTemplate; infer_instance

end Fingerprints

section Credentials

open CredentialStore

variable (token : Token) {α : Type}

instance : Composed requireSupport :=
  inferInstanceAs (Composed (do if !(← Decision.management.take) then throw (.notSupported .credentialManagement)))

instance (parameters : SubCommandParameters) : Composed (send parameters) :=
  inferInstanceAs (Composed (Signer.credentials.send parameters.toValue))

instance (subCommand : UInt8) (params : Option Value) : Composed (callSigned token subCommand params) := by
  unfold callSigned; infer_instance

instance (subCommand : UInt8) (read : Response → Result α) : Composed (next subCommand read) := by
  unfold next; infer_instance

instance (continuation : UInt8) (read : Response → Result α) (first : Response) (total : UInt64) :
    Composed (collect continuation read first total) := by
  unfold collect; infer_instance

instance (request : Operation (Option Response)) [Composed request] : Composed (begun request) := by
  unfold begun
  exact composed_tryCatch fun failure => by cases failure <;> infer_instance

instance : Composed (getUsage token) := by
  unfold getUsage; infer_instance

instance : Composed (listRelyingParties token) := by
  unfold listRelyingParties
  refine composed_bind fun first => ?_
  cases first with
  | none => infer_instance
  | some first =>
      refine composed_bind fun total => ?_
      split <;> infer_instance

instance (rpIdHash : Bytes) : Composed (listCredentials token rpIdHash) := by
  unfold listCredentials
  refine composed_bind fun first => ?_
  cases first <;> infer_instance

instance (credential : CredentialDescriptor) : Composed (remove token credential) := by
  unfold remove; infer_instance

instance (credential : CredentialDescriptor) (user : UserEntity) : Composed (updateUser token credential user) := by
  unfold updateUser; infer_instance

end Credentials

section Settings

open Settings

variable (token : Option Token)

instance : Composed requireSupport :=
  inferInstanceAs (Composed (do if !(← Decision.settings.take) then throw (.notSupported .authenticatorConfig)))

instance (parameters : SubCommandParameters) : Composed (send parameters) := by
  unfold send; infer_instance

instance (subCommand : UInt8) (params : Option Value) : Composed (call token subCommand params) := by
  cases token <;> unfold call <;> infer_instance

instance : Composed (enableEnterpriseAttestation token) := by
  unfold enableEnterpriseAttestation; infer_instance

instance : Composed (toggleAlwaysVerify token) := by
  unfold toggleAlwaysVerify; infer_instance

instance (length : Option UInt64) (rpIds : Option (List String)) (forceChange : Bool) :
    Composed (setMinPinLength token length rpIds forceChange) := by
  unfold setMinPinLength; infer_instance

instance (id : UInt64) : Composed (vendorCommand token id) := by
  unfold vendorCommand; infer_instance

end Settings

namespace Call

variable {Reply : Type}

/-- Whether a call asks for the info again. -/
def refreshes : Call Reply → Bool
  | getInfo => true
  | _ => false

theorem composed_perform {call : Call Reply} (h : call.refreshes = false) : Composed call.perform := by
  cases call <;> cases h <;> unfold perform <;> infer_instance

instance (call : Call Reply) : Orderly call.perform := by
  cases asks : call.refreshes with
  | true =>
      cases call <;> cases asks
      exact inferInstanceAs (Orderly Session.getInfo)
  | false =>
      have := composed_perform asks
      infer_instance

end Call

end SecurityKey
