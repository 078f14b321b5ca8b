import SecurityKey.Proofs.Separation
import SecurityKey.Proofs.Session.RefusedCalls

/-!
# Calls that can be written

Some calls are given values by the caller, and are refused exactly when one of these has a map with a key that has no
encoding. The other calls make their arguments themselves and can always write them.
-/

namespace SecurityKey

open Cbor (Value)

variable {α β : Type}

/-! ## Operations that write given arguments -/

namespace Operation

variable {operation : Operation α} {arguments : Value}

/-- An operation that writes the given arguments first: it is refused when they have no encoding, and only then. -/
class Writing (arguments : Value) (operation : Operation α) : Prop where
  refused : ∀ {key}, arguments.canonical = .error key → ∀ session,
    (operation.on session).1 = .error (.encoding (.mapKey key))
  committed : ∀ {encoded}, arguments.canonical = .ok encoded → Committed operation

instance (command : Command) (arguments : Value) : Writing arguments (Session.send command (some arguments)) where
  refused failed session := by
    rw [Session.send, Request.encode_of_refused command failed]
    rfl
  committed written := committed_send (by rw [Request.encode_of_canonical command written]; infer_instance)

instance {next : α → Operation β} [first : Writing arguments operation] [∀ a, Committed (next a)] :
    Writing arguments (operation >>= next) where
  refused failed session := by
    have refused := first.refused failed session
    rw [on_bind]
    rcases reached : operation.on session with ⟨failure | a, after⟩ <;> rw [reached] at refused <;> cases refused
    rfl
  committed written := (first.committed written).bind inferInstance

instance (option : String) (stable preview : Command) {next : Command → Operation α}
    [second : ∀ command, Writing arguments (next command)] :
    Writing arguments (Session.flavor option stable preview >>= next) where
  refused failed session := by
    rw [on_bind_of_ok (on_flavor option stable preview)]
    exact (second _).refused failed session
  committed written := .bind inferInstance fun command => (second command).committed written

instance [first : Writing arguments operation] : Writing arguments (unattended operation) where
  refused failed session := first.refused failed (quiet session)
  committed written := have := first.committed written; inferInstance

end Operation

/-! ## Arguments that can always be written -/

section Arguments

open Operation

variable {params : Option Value} {encoded : Option Bytes}

theorem committed_pack {arguments : List (Option Value)} (bound : arguments.length < 2 ^ 64)
    (each : ∀ argument, some argument ∈ arguments → argument.order.2 = none) (command : Command) :
    Committed (Session.send command (some (Request.pack arguments))) :=
  committed_send (by rw [Request.encode_pack command bound each]; infer_instance)

theorem Signer.committed_send (signer : Signer) {arguments : Value}
    (h : ∀ command, Committed (Session.send command (some arguments))) : Committed (signer.send arguments) := by
  cases signer <;> unfold Signer.send <;> infer_instance

/-- A signed call that can write its parameters is not refused. -/
theorem Signer.committed_call (signer : Signer) (token : Token) (subCommand : UInt8)
    (h : params.map Value.canonical = encoded.map .ok) : Committed (signer.call token subCommand params) := by
  rw [call_eq, authenticated_eq h]
  refine .bind inferInstance fun message => signer.committed_send (committed_pack ?_ fun _ => order_arguments h)
  cases signer <;> simp [arguments]

theorem Settings.committed_call (token : Option Token) (subCommand : UInt8)
    (h : params.map Value.canonical = encoded.map .ok) : Committed (call token subCommand params) := by
  cases token with
  | some token => exact Signer.settings.committed_call token subCommand h
  | none =>
      refine Signer.settings.committed_send (committed_pack (by simp) fun argument mem => ?_)
      have signed : some argument ∈ Signer.settings.arguments subCommand params 0 [] := by
        simp only [Option.map_none, List.mem_cons, reduceCtorEq, List.not_mem_nil, or_false] at mem
        rcases mem with same | same <;> simp [Signer.arguments, same]
      exact Signer.order_arguments h signed

theorem Fingerprint.committed_send {parameters : BioParameters} (plain : parameters.subCommandParams = none) :
    Committed (send parameters) := by
  refine Signer.fingerprints.committed_send (committed_pack (by simp) fun argument mem => ?_)
  simp only [plain, List.mem_cons, List.not_mem_nil, or_false, reduceCtorEq, false_or, eq_comm (a := some argument),
    Option.map_eq_some_iff] at mem
  rcases mem with ⟨_, -, rfl⟩ | ⟨_, -, rfl⟩ | ⟨_, -, rfl⟩ | ⟨_, -, rfl⟩ | ⟨_, -, rfl⟩ <;> rfl

theorem Pin.committed_plain (protocol : PinProtocol) (subCommand : UInt8) :
    Committed (send (parameters protocol subCommand)) :=
  committed_send (by rintro _ ⟨⟩)

end Arguments

/-! ## Calls -/

section Calls

open Operation

variable {Reply : Type}

instance : Committed Session.getInfo := by
  unfold Session.getInfo Session.sendForData; infer_instance

instance : Committed Session.reset := by
  unfold Session.reset; infer_instance

instance : Committed Session.selection := by
  unfold Session.selection; infer_instance

instance (protocol : PinProtocol) : Committed (Pin.getRetries protocol) := by
  have := Pin.committed_plain protocol 0x01
  unfold Pin.getRetries; infer_instance

instance (protocol : PinProtocol) : Committed (Pin.getVerificationRetries protocol) := by
  have := Pin.committed_plain protocol 0x07
  unfold Pin.getVerificationRetries; infer_instance

instance : Committed Fingerprint.getModality := by
  have : Committed (Fingerprint.send { getModality := some true }) := Fingerprint.committed_send rfl
  unfold Fingerprint.getModality; infer_instance

instance (token : Token) : Committed (Fingerprint.getSensorInfo token) := by
  have : Committed (Fingerprint.call token 0x07 none .none) := Fingerprint.committed_send rfl
  unfold Fingerprint.getSensorInfo; infer_instance

instance (token : Token) : Committed (Fingerprint.cancelEnrollment token) := by
  have : Committed (Fingerprint.call token 0x03 none .protocolOnly) := Fingerprint.committed_send rfl
  unfold Fingerprint.cancelEnrollment; infer_instance

instance (request : Operation (Option Response)) [Committed request] : Committed (CredentialStore.begun request) := by
  unfold CredentialStore.begun
  exact committed_tryCatch (committed_absent Status.noCredentials none)

/-- A call that a token vouches for is not refused. -/
instance (call : SignedCall Reply) (token : Token) : Committed (call.withToken token).perform := by
  have asks : Committed (call.signer.call token call.subCommand call.params) :=
    call.signer.committed_call token call.subCommand call.canonical_params
  cases call with
  | beginEnrollment timeout => exact asks.bind fun _ => inferInstance
  | captureNext templateId timeout => exact asks.bind fun _ => inferInstance
  | listTemplates =>
      show Committed (Fingerprint.listTemplates token)
      rw [Fingerprint.listTemplates_eq]
      have listed : Committed (do Fingerprint.templatesOf (← Fingerprint.call token 0x04 none .signed)) :=
        asks.bind fun _ => inferInstance
      exact (committed_tryCatch (committed_absent Status.invalidOption Dictionary.empty)).unattended
  | setName templateId name => exact (asks.bind fun _ => inferInstance).unattended
  | removeTemplate templateId => exact (asks.bind fun _ => inferInstance).unattended
  | getUsage => exact asks.bind fun _ => inferInstance
  | listRelyingParties =>
      show Committed (CredentialStore.listRelyingParties token)
      have first : Committed (CredentialStore.callSigned token 0x02 none) := asks
      unfold CredentialStore.listRelyingParties
      refine .bind inferInstance fun first => ?_
      cases first with
      | none => infer_instance
      | some first =>
          refine .bind inferInstance fun total => ?_
          split <;> infer_instance
  | listCredentials rpIdHash =>
      show Committed (CredentialStore.listCredentials token rpIdHash)
      have first : Committed (do return some (← CredentialStore.expect 0x04
          (← CredentialStore.callSigned token 0x04 (some (Request.pack [some (.bytes rpIdHash)]))))) :=
        asks.bind fun _ => inferInstance
      unfold CredentialStore.listCredentials
      refine .bind inferInstance fun first => ?_
      cases first <;> infer_instance
  | removeCredential credential => exact asks.bind fun _ => inferInstance
  | updateUser credential user => exact asks.bind fun _ => inferInstance
  | enableEnterpriseAttestation => exact asks.bind fun _ => inferInstance
  | toggleAlwaysVerify => exact asks.bind fun _ => inferInstance
  | setMinPinLength length rpIds forceChange => exact asks.bind fun _ => inferInstance
  | vendorCommand id => exact asks

end Calls

end SecurityKey
