import SecurityKey.Proofs.Session.Lockstep
import SecurityKey.Proofs.Signing

/-!
# Flavors of a command

An authenticator knows enrollment and credential management by the command of the standard or by the preview one, and
all requests of one kind go out with one of the two. It is the one that the authenticator declares, but for credential
management when its option is listed as off.
-/

namespace SecurityKey

open Cbor (Value)

/-! ## What is declared -/

/-- An authenticator with the given info declares that it takes requests of a kind with a command byte. -/
inductive Declares (info : Info) : Signer → (byte : UInt8) → Prop where
  | enrollment : info.options.contains "bioEnroll" → Declares info .fingerprints 0x09
  | enrollmentPreview : info.supportsVersion "FIDO_2_1_PRE" → info.options.contains "userVerificationMgmtPreview" →
      Declares info .fingerprints 0x40
  | management : info.isOn "credMgmt" → Declares info .credentials 0x0A
  | managementPreview : info.supportsVersion "FIDO_2_1_PRE" → info.isOn "credentialMgmtPreview" →
      Declares info .credentials 0x41

variable {info : Info}

theorem supportsBioEnrollment_iff : info.supportsBioEnrollment ↔ ∃ byte, Declares info .fingerprints byte := by
  rw [Info.supportsBioEnrollment, Bool.or_eq_true, Bool.and_eq_true]
  constructor
  · rintro (listed | ⟨version, listed⟩)
    · exact ⟨_, .enrollment listed⟩
    · exact ⟨_, .enrollmentPreview version listed⟩
  · rintro ⟨byte, listed | ⟨version, listed⟩⟩
    · exact .inl listed
    · exact .inr ⟨version, listed⟩

theorem supportsCredentialManagement_iff :
    info.supportsCredentialManagement ↔ ∃ byte, Declares info .credentials byte := by
  rw [Info.supportsCredentialManagement, Bool.or_eq_true, Bool.and_eq_true]
  constructor
  · rintro (on | ⟨version, on⟩)
    · exact ⟨_, .management on⟩
    · exact ⟨_, .managementPreview version on⟩
  · rintro ⟨byte, _ | _ | on | ⟨version, on⟩⟩
    · exact .inl on
    · exact .inr ⟨version, on⟩

/-! ## What is sent -/

namespace Operation

variable {α β : Type} {signer : Signer}

/-- All requests of an operation on a session have the given command byte, and what is known about the authenticator
stays the same. -/
def Utters (operation : Operation α) (byte : UInt8) (session : Session) : Prop :=
  ∃ made, session.link.Conversed made (operation.on session).2.link ∧
    (∀ exchange ∈ made, exchange.request.head? = some byte) ∧ (operation.on session).2.info = session.info

/-- An operation all of whose requests are of one kind, with the command for what is known about the authenticator. -/
class Speaks (signer : Signer) (operation : Operation α) : Prop where
  utters : ∀ session, operation.Utters (signer.command session.info).byte session

theorem Utters.of_on_eq {operation other : Operation α} {byte : UInt8} {session : Session}
    (h : other.Utters byte session) (same : operation.on session = other.on session) :
    operation.Utters byte session := by
  unfold Utters
  rw [same]
  exact h

theorem Utters.unattended {operation : Operation α} {byte : UInt8} {session : Session}
    (h : operation.Utters byte (quiet session)) : (unattended operation).Utters byte session := by
  obtain ⟨made, conversed, command, same⟩ := h
  exact ⟨made, conversed.of_heed.heed _, command, same⟩

theorem utters_of_still {operation : Operation α} {session : Session} (still : (operation.on session).2 = session)
    (byte : UInt8) : operation.Utters byte session := by
  unfold Utters
  rw [still]
  exact ⟨[], .nothing, by simp, rfl⟩

theorem speaks_of_still {operation : Operation α} (still : operation.Still) : Speaks signer operation :=
  ⟨fun session => utters_of_still (still session) _⟩

instance (a : α) : Speaks signer (pure a : Operation α) := speaks_of_still (still_pure a)

instance (failure : Failure) : Speaks signer (throw failure : Operation α) := speaks_of_still fun _ => rfl

instance (result : Result α) : Speaks signer (liftM result : Operation α) := speaks_of_still (still_liftM result)

instance : Speaks signer currentInfo := speaks_of_still fun _ => rfl

theorem speaks_of_follow (operation : Operation α) [first : Speaks signer operation] (next : Result α → Operation β)
    (second : ∀ result, Speaks signer (next result)) {whole : Operation β}
    (h : ∀ session, whole.on session = (next (operation.on session).1).on (operation.on session).2) :
    Speaks signer whole where
  utters session := by
    obtain ⟨made, conversed, command, same⟩ := first.utters session
    obtain ⟨later, conversed', command', same'⟩ := (second (operation.on session).1).utters (operation.on session).2
    unfold Utters
    rw [h]
    rw [same] at command' same'
    exact ⟨made ++ later, conversed.trans conversed', List.forall_mem_append.2 ⟨command, command'⟩, same'⟩

theorem speaks_bind {operation : Operation α} [Speaks signer operation] {next : α → Operation β}
    (second : ∀ a, Speaks signer (next a)) : Speaks signer (operation >>= next) := by
  refine speaks_of_follow operation (resume next) (fun result => ?_) (on_bind_resume next)
  cases result with
  | error failure => exact inferInstanceAs (Speaks signer (throw failure))
  | ok a => exact second a

instance {operation : Operation α} [Speaks signer operation] {next : α → Operation β}
    [second : ∀ a, Speaks signer (next a)] : Speaks signer (operation >>= next) :=
  speaks_bind second

theorem speaks_tryCatch {operation : Operation α} [Speaks signer operation] {handler : Failure → Operation α}
    (second : ∀ failure, Speaks signer (handler failure)) : Speaks signer (tryCatch operation handler) := by
  refine speaks_of_follow operation (rescue handler) (fun result => ?_) (on_tryCatch_rescue handler)
  cases result with
  | error failure => exact second failure
  | ok a => exact inferInstanceAs (Speaks signer (pure a))

instance {operation : Operation α} [Speaks signer operation] {handler : Failure → Operation α}
    [second : ∀ failure, Speaks signer (handler failure)] : Speaks signer (tryCatch operation handler) :=
  speaks_tryCatch second

instance {condition : Prop} [Decidable condition] {first second : Operation α} [Speaks signer first]
    [Speaks signer second] : Speaks signer (if condition then first else second) := by
  split <;> infer_instance

instance {operation : Operation α} [h : Speaks signer operation] : Speaks signer (unattended operation) :=
  ⟨fun session => (h.utters (quiet session)).unattended⟩

end Operation

open Operation

variable {α : Type} {signer : Signer}

theorem Session.utters_send (command : Command) (arguments : Option Value) (session : Session) :
    (send command arguments).Utters command.byte session := by
  rcases Request.encode_cases command arguments with ⟨encoded, written⟩ | ⟨refused, failed⟩
  · unfold Utters
    rw [on_send_of_encode written]
    exact ⟨_, .one _ session.link, List.forall_mem_singleton.2 rfl, rfl⟩
  · refine utters_of_still ?_ _
    unfold send
    rw [on_bind, on_liftM, failed]

instance (arguments : Value) : Speaks signer (signer.send arguments) where
  utters session := by
    cases signer with
    | fingerprints => exact (Session.utters_send _ _ _).of_on_eq (on_bind_of_ok (on_flavor ..) _)
    | credentials =>
        have sent : (Session.send (Signer.credentials.command session.info) (some arguments)).Utters _ (quiet session) :=
          Session.utters_send ..
        show (unattended (do Session.send (← Session.flavor _ _ _) (some arguments))).Utters _ session
        exact .unattended (sent.of_on_eq (on_bind_of_ok (on_flavor ..) _))
    | settings => exact (Session.utters_send _ _ _).unattended

/-! ## Calls -/

section Fingerprints

open Fingerprint

variable (token : Token) (timeout : Option Duration) (templateId : Bytes)

instance (parameters : BioParameters) : Speaks .fingerprints (send parameters) :=
  inferInstanceAs (Speaks .fingerprints (Signer.fingerprints.send parameters.toValue))

instance : Speaks .fingerprints getModality := by
  unfold getModality; infer_instance

instance (modality : UInt8) : Speaks .fingerprints (requireModality modality) := by
  unfold requireModality; infer_instance

instance (subCommand : UInt8) (params : Option Value) (authorization : Authorization) :
    Speaks .fingerprints (call token subCommand params authorization) := by
  cases authorization <;> unfold call <;> infer_instance

instance : Speaks .fingerprints (getSensorInfo token) := by
  unfold getSensorInfo; infer_instance

instance : Speaks .fingerprints (beginEnrollment token timeout) := by
  unfold beginEnrollment; infer_instance

instance : Speaks .fingerprints (captureNext token templateId timeout) := by
  unfold captureNext; infer_instance

instance : Speaks .fingerprints (cancelEnrollment token) := by
  unfold cancelEnrollment; infer_instance

instance (state : Enrollment) : Speaks .fingerprints (takeSample token timeout state) := by
  unfold takeSample
  cases state.templateId? <;> infer_instance

instance (state : Enrollment) : Speaks .fingerprints (capture token timeout state) := by
  by_cases finished : ∃ id, state = .complete id
  · obtain ⟨id, rfl⟩ := finished
    exact inferInstanceAs (Speaks .fingerprints (pure _))
  · refine speaks_of_follow (takeSample token timeout state) (report state) (fun result => ?_)
      (capture_on_report (not_exists.1 finished))
    cases result <;> unfold report <;> infer_instance

instance : Speaks .fingerprints (abandon token) :=
  speaks_of_follow (cancelEnrollment token) (fun result => pure (.notStarted, result))
    (fun _ => inferInstance) fun _ => rfl

instance : Speaks .fingerprints (listTemplates token) := by
  rw [listTemplates_eq]
  have handled (failure : Failure) : Speaks .fingerprints (unlisted failure) := by
    cases failure <;> unfold unlisted <;> infer_instance
  infer_instance

instance (name : String) : Speaks .fingerprints (setName token templateId name) := by
  unfold setName; infer_instance

instance : Speaks .fingerprints (removeTemplate token templateId) := by
  unfold removeTemplate; infer_instance

end Fingerprints

section Credentials

open CredentialStore

variable (token : Token)

instance : Speaks .credentials requireSupport := by
  unfold requireSupport; infer_instance

instance (parameters : SubCommandParameters) : Speaks .credentials (send parameters) :=
  inferInstanceAs (Speaks .credentials (Signer.credentials.send parameters.toValue))

instance (subCommand : UInt8) (params : Option Value) : Speaks .credentials (callSigned token subCommand params) := by
  unfold callSigned; infer_instance

instance (subCommand : UInt8) (read : Response → Result α) : Speaks .credentials (next subCommand read) := by
  unfold next; infer_instance

instance (operation : Operation α) [Speaks signer operation] (n : Nat) :
    Speaks signer (Session.repeated operation n) := by
  induction n with
  | zero => unfold Session.repeated; infer_instance
  | succ n ih => unfold Session.repeated; infer_instance

instance (continuation : UInt8) (read : Response → Result α) (first : Response) (total : UInt64) :
    Speaks .credentials (collect continuation read first total) := by
  unfold collect; infer_instance

instance (request : Operation (Option Response)) [Speaks signer request] : Speaks signer (begun request) := by
  unfold begun
  exact speaks_tryCatch fun failure => by cases failure <;> infer_instance

instance : Speaks .credentials (getUsage token) := by
  unfold getUsage; infer_instance

instance : Speaks .credentials (listRelyingParties token) := by
  unfold listRelyingParties
  refine speaks_bind fun first => ?_
  cases first with
  | none => infer_instance
  | some first =>
      refine speaks_bind fun total => ?_
      split <;> infer_instance

instance (rpIdHash : Bytes) : Speaks .credentials (listCredentials token rpIdHash) := by
  unfold listCredentials
  refine speaks_bind fun first => ?_
  cases first <;> infer_instance

instance (credential : CredentialDescriptor) : Speaks .credentials (remove token credential) := by
  unfold remove; infer_instance

instance (credential : CredentialDescriptor) (user : UserEntity) :
    Speaks .credentials (updateUser token credential user) := by
  unfold updateUser; infer_instance

end Credentials

namespace Call

variable {Reply : Type}

/-- The kind of the requests of a call about fingerprints or stored credentials. -/
def signer? : Call Reply → Option Signer
  | sendFingerprint _ | getModality | requireModality _ | getSensorInfo _ | beginEnrollment _ _ | captureNext _ _ _
  | cancelEnrollment _ | capture _ _ _ | abandon _ | listTemplates _ | setName _ _ _ | removeTemplate _ _ =>
    some .fingerprints
  | sendCredential _ | requireCredentials | getUsage _ | listRelyingParties _ | listCredentials _ _
  | removeCredential _ _ | updateUser _ _ _ => some .credentials
  | _ => none

theorem speaks_perform {call : Call Reply} (kind : call.signer? = some signer) : Speaks signer call.perform := by
  cases call <;> cases kind <;> unfold perform <;> infer_instance

end Call

/-! ## Runs -/

variable {turns : List Turn} {session opened : Session}

theorem Turn.utters (turn : Turn) (kind : turn.call.signer? = some signer) (session : Session) :
    ∃ made, session.link.Conversed made (turn.after session).link ∧
      (∀ exchange ∈ made, exchange.request.head? = some (signer.command session.info).byte) ∧
      (turn.after session).info = session.info := by
  obtain ⟨made, conversed, command, same⟩ := (Call.speaks_perform kind).utters (turn.enter session)
  exact ⟨made, conversed.of_hold, command, same⟩

theorem Session.utters_afterTurns (kind : ∀ turn ∈ turns, turn.call.signer? = some signer) (session : Session) :
    ∃ made, session.link.Conversed made (session.afterTurns turns).link ∧
      ∀ exchange ∈ made, exchange.request.head? = some (signer.command session.info).byte := by
  induction turns generalizing session with
  | nil => exact ⟨[], .nothing, by simp⟩
  | cons turn turns ih =>
      obtain ⟨first, others⟩ := List.forall_mem_cons.1 kind
      obtain ⟨made, conversed, command, same⟩ := turn.utters first session
      obtain ⟨later, conversed', command'⟩ := ih others (turn.after session)
      rw [same] at command'
      exact ⟨made ++ later, conversed.trans conversed', List.forall_mem_append.2 ⟨command, command'⟩⟩

/-! ## What is sent is declared -/

theorem declares_of_supportsBioEnrollment (h : info.supportsBioEnrollment) :
    Declares info .fingerprints (Signer.fingerprints.command info).byte := by
  by_cases listed : info.options.contains "bioEnroll"
  · have stable : (Signer.fingerprints.command info).byte = 0x09 := by simp [Signer.command, listed, Command.byte]
    rw [stable]
    exact .enrollment listed
  · obtain ⟨_, listed' | ⟨version, on⟩⟩ := supportsBioEnrollment_iff.1 h
    · exact absurd listed' listed
    · have previewed : info.supportsVersion Info.fido21Pre := version
      have preview : (Signer.fingerprints.command info).byte = 0x40 := by
        simp [Signer.command, listed, previewed, Command.byte]
      rw [preview]
      exact .enrollmentPreview version on

theorem isOn_iff {option : String} : info.isOn option ↔ info.options.get? option = some true := by
  rw [Info.isOn, beq_iff_eq]

/-- Credentials are managed with the preview command only where that is declared, and so they are with the other one
unless its option is listed as off. -/
theorem declares_of_supportsCredentialManagement (h : info.supportsCredentialManagement) :
    let byte := (Signer.credentials.command info).byte
    (byte = 0x41 → Declares info .credentials byte) ∧
      (Declares info .credentials byte ↔ info.options.get? "credMgmt" ≠ some false) := by
  intro byte
  by_cases listed : info.options.contains "credMgmt"
  · -- The command of the standard goes out for an option that is listed, and only its value says if that is declared.
    have stable : byte = 0x0A := by simp [byte, Signer.command, listed, Command.byte]
    obtain ⟨value, found⟩ := Option.isSome_iff_exists.1 listed
    have found : info.options.get? "credMgmt" = some value := found
    rw [stable, found]
    refine ⟨fun preview => absurd preview (by decide), fun declared => ?_, fun option => .management ?_⟩
    · cases declared with
      | management on =>
          rw [isOn_iff, found] at on
          simp [on]
    · rw [isOn_iff, found]
      cases value with
      | true => rfl
      | false => exact absurd rfl option
  · have absent : info.options.get? "credMgmt" = none := by simpa [Dictionary.contains] using listed
    obtain ⟨_, _ | _ | on | ⟨version, on⟩⟩ := supportsCredentialManagement_iff.1 h
    · rw [isOn_iff, absent] at on
      cases on
    · have previewed : info.supportsVersion Info.fido21Pre := version
      have preview : byte = 0x41 := by simp [byte, Signer.command, listed, previewed, Command.byte]
      rw [preview, absent]
      exact ⟨fun _ => .managementPreview version on, iff_of_true (.managementPreview version on) (by simp)⟩

theorem Fingerprint.supports_of_requireModality {modality : UInt8}
    (h : (requireModality modality).on session = (.ok (), opened)) : session.info.supportsBioEnrollment := by
  by_contra lacks
  have refused : ((requireModality modality).on session).1 = .error (.notSupported .bioEnrollment) := by
    have lacks : session.info.supportsBioEnrollment = false := by simpa using lacks
    have lacks : (quiet session).info.supportsBioEnrollment = false := lacks
    unfold requireModality
    rw [on_unattended]
    simp only [on_bind, on_currentInfo, lacks]
    rfl
  rw [h] at refused
  cases refused

theorem CredentialStore.supports_of_requireSupport (h : requireSupport.on session = (.ok (), opened)) :
    session.info.supportsCredentialManagement ∧ opened = session := by
  unfold requireSupport at h
  rw [on_bind, on_currentInfo] at h
  by_cases supports : session.info.supportsCredentialManagement
  · simp only [supports] at h
    exact ⟨supports, (congrArg Prod.snd h).symm⟩
  · simp only [supports] at h
    cases h

/-- What is checked before the first request, and what is sent afterwards, agree for fingerprints: all requests go out
with one command, which the authenticator declares. So it is for stored credentials exactly when the option of the
command of the standard is not listed as off. -/
theorem sent_commands_are_declared (session opened : Session) (turns : List Turn) :
    (session.info.supportsBioEnrollment ↔ ∃ byte, Declares session.info .fingerprints byte) ∧
    (session.info.supportsCredentialManagement ↔ ∃ byte, Declares session.info .credentials byte) ∧
    (∀ modality : UInt8, (Fingerprint.requireModality modality).on session = (.ok (), opened) →
      (∀ turn ∈ turns, turn.call.signer? = some .fingerprints) →
      ∃ made byte, session.link.Conversed made (opened.afterTurns turns).link ∧
        (∀ exchange ∈ made, exchange.request.head? = some byte) ∧ Declares session.info .fingerprints byte) ∧
    (CredentialStore.requireSupport.on session = (.ok (), opened) →
      (∀ turn ∈ turns, turn.call.signer? = some .credentials) →
      ∃ made byte, session.link.Conversed made (opened.afterTurns turns).link ∧
        (∀ exchange ∈ made, exchange.request.head? = some byte) ∧
        (byte = 0x41 → Declares session.info .credentials byte) ∧
        (Declares session.info .credentials byte ↔ session.info.options.get? "credMgmt" ≠ some false)) := by
  refine ⟨supportsBioEnrollment_iff, supportsCredentialManagement_iff, fun modality opens kind => ?_,
    fun opens kind => ?_⟩
  · have speaks : Speaks .fingerprints (Fingerprint.requireModality modality) := inferInstance
    obtain ⟨made, conversed, command, same⟩ := speaks.utters session
    rw [opens] at conversed same
    obtain ⟨later, conversed', command'⟩ := Session.utters_afterTurns kind opened
    rw [same] at command'
    exact ⟨made ++ later, _, conversed.trans conversed', List.forall_mem_append.2 ⟨command, command'⟩,
      declares_of_supportsBioEnrollment (Fingerprint.supports_of_requireModality opens)⟩
  · obtain ⟨supports, rfl⟩ := CredentialStore.supports_of_requireSupport opens
    obtain ⟨made, conversed, command⟩ := Session.utters_afterTurns kind opened
    exact ⟨made, _, conversed, command, declares_of_supportsCredentialManagement supports⟩

/-- A session with an authenticator that reports the preview version with the given options, and that gives one more
answer. -/
def previewSession (options : List (String × Bool)) (answer : Bytes) : Session where
  link := .bringing [.ofCommand .cbor answer]
  info := { versions := ["FIDO_2_1_PRE"], options := .ofList options }
  config := {}
  entropy := ⟨fun _ => 0, 0⟩

/-- An authenticator with the previews alone, which enrolls fingerprints. -/
def previews : Session :=
  previewSession [("userVerificationMgmtPreview", false), ("credentialMgmtPreview", true)] [0x00, 0xA1, 0x01, 0x01]

/-- An authenticator on which credential management is off and its preview is on. -/
def mixed : Session :=
  previewSession [("credMgmt", false), ("credentialMgmtPreview", true)] [0x01]

/-- An enrollment that is given up. -/
def cancelling : Turn :=
  ⟨.cancelEnrollment ⟨.two, List.replicate 32 0x11⟩, none⟩

/-- A question for the number of credentials. -/
def counting : Turn :=
  ⟨.getUsage ⟨.two, List.replicate 32 0x11⟩, none⟩

theorem opens_previews : ∃ opened, (Fingerprint.requireModality 0x01).on previews = (.ok (), opened) := by
  have succeeds : ((Fingerprint.requireModality 0x01).on previews).1.toOption = some () := by decide +kernel
  rcases reached : (Fingerprint.requireModality 0x01).on previews with ⟨_ | _, opened⟩
  · rw [reached] at succeeds
    cases succeeds
  · exact ⟨opened, rfl⟩

theorem previews_are_used :
    ∃ opened, (Fingerprint.requireModality 0x01).on previews = (.ok (), opened) ∧
      CredentialStore.requireSupport.on previews = (.ok (), previews) ∧
      (∃ made, previews.link.Conversed made (opened.afterTurns [cancelling]).link ∧
        ∀ exchange ∈ made, exchange.request.head? = some 0x40) ∧
      ∃ made, previews.link.Conversed made (previews.afterTurns [counting]).link ∧
        ∀ exchange ∈ made, exchange.request.head? = some 0x41 := by
  obtain ⟨opened, opens⟩ := opens_previews
  obtain ⟨-, -, fingerprints, -⟩ := sent_commands_are_declared previews opened [cancelling]
  obtain ⟨-, -, -, credentials⟩ := sent_commands_are_declared previews previews [counting]
  have opens' : CredentialStore.requireSupport.on previews = (.ok (), previews) := rfl
  refine ⟨opened, opens, opens', ?_, ?_⟩
  · obtain ⟨made, byte, conversed, command, declared⟩ :=
      fingerprints 0x01 opens (List.forall_mem_singleton.2 rfl)
    cases declared with
    | enrollment listed => exact absurd listed (by decide +kernel)
    | enrollmentPreview => exact ⟨made, conversed, command⟩
  · obtain ⟨made, byte, conversed, command, -, declared⟩ :=
      credentials opens' (List.forall_mem_singleton.2 rfl)
    cases declared.2 (by decide +kernel) with
    | management on => exact absurd on (by decide +kernel)
    | managementPreview => exact ⟨made, conversed, command⟩

/-- Where the option of the standard is off and the preview is on, the check passes, and what is sent is the command
that is off. -/
theorem option_off_is_used :
    CredentialStore.requireSupport.on mixed = (.ok (), mixed) ∧ ¬Declares mixed.info .credentials 0x0A ∧
    ∃ made, mixed.link.Conversed made (mixed.afterTurns [counting]).link ∧ made.length = 1 ∧
      ∀ exchange ∈ made, exchange.request.head? = some 0x0A := by
  refine ⟨rfl, fun declared => ?_, ?_⟩
  · cases declared with
    | management on => exact absurd on (by decide +kernel)
  · have kind : ∀ turn ∈ [counting], turn.call.signer? = some .credentials := List.forall_mem_singleton.2 rfl
    obtain ⟨made, conversed, command⟩ := Session.utters_afterTurns kind mixed
    have steps := conversed.lockstep (Link.isCalm_bringing _)
    have sent : (mixed.afterTurns [counting]).link.requests.length = 1 := rfl
    refine ⟨made, conversed, ?_, ?_⟩
    · have before : mixed.link.requests = [] := rfl
      rwa [steps.requests, before, List.nil_append, List.length_map] at sent
    · have stable : (Signer.credentials.command mixed.info).byte = 0x0A := by decide +kernel
      rwa [stable] at command

end SecurityKey
