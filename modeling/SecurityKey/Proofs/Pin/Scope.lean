import SecurityKey.Proofs.Pin.Agreement

/-!
# What an operation asks for

Whatever the authenticator answers, an operation sends nothing, or the request for the authenticator's key, or that
request and one more. The last one follows only a key that the platform accepted, and asks for exactly what the
operation was called for.
-/

namespace SecurityKey.Pin

open Crypto Operation

variable {protocol : PinProtocol} {session : Session} {handshake : Handshake} {agreement : PinProtocol.Agreement}

/-! ## Operations that are refused -/

namespace Handshake

/-- The PINs that an operation is given. -/
def pins (handshake : Handshake) : List String :=
  handshake.proves.toList ++ handshake.sets.toList

/-- The failures of an operation that is refused before anything is sent. -/
def Refuses (handshake : Handshake) : Failure → Prop
  | .notSupported _ => True
  | .invalidArgument _ => True
  | .invalidPin _ => ∃ pin ∈ handshake.pins, ¬IsAcceptable pin
  | _ => False

end Handshake

section Refused

variable {pin current new : String} (protocol : PinProtocol)

theorem prepare_eq_error (h : ¬IsAcceptable pin) : ∃ fault, prepare pin = .error (.invalidPin fault) := by
  unfold prepare
  split_ifs with short long
  · exact ⟨_, rfl⟩
  · exact ⟨_, rfl⟩
  · exact absurd ⟨_, prepare_eq_ok_iff.2 ⟨Nat.not_lt.1 short, Nat.not_lt.1 long, rfl⟩⟩ h

theorem hash_eq_error (h : ¬IsAcceptable pin) : ∃ fault, Pin.hash pin = .error (.invalidPin fault) := by
  obtain ⟨fault, refused⟩ := prepare_eq_error h
  exact ⟨fault, by simp [Pin.hash, refused, bind, Except.bind]⟩

theorem preparePadded_eq_error (h : ¬IsAcceptable pin) : ∃ fault, preparePadded pin = .error (.invalidPin fault) := by
  obtain ⟨fault, refused⟩ := prepare_eq_error h
  exact ⟨fault, by simp [preparePadded, refused, bind, Except.bind]⟩

theorem requireSupport_on_of_not (h : ¬session.info.knowsPins) :
    requireSupport.on session = (.error (.notSupported .clientPin), session) := by
  unfold requireSupport
  rw [on_bind_of_ok on_currentInfo]
  simp only [h, Bool.not_false, if_true]
  rfl

theorem getToken_of_not_allowed {permissions : Option Permissions} {rpId : Option String}
    (h : ¬(Handshake.token pin permissions rpId).IsAllowed session.info) :
    ∃ failure, (Handshake.token pin permissions rpId).Refuses failure ∧
      (getToken protocol pin permissions rpId).on session = (.error failure, session) := by
  by_cases knows : session.info.knowsPins
  · have supported : requireSupport.on (quiet session) = (.ok (), quiet session) := requireSupport_on knows
    by_cases unscoped : session.info.issuesScopedTokens ∧ permissions.isNone ∧ rpId.isSome
    · refine ⟨.invalidArgument .rpIdWithoutPermissions, trivial, on_unattended_of_still ?_⟩
      rw [on_bind_of_ok supported, on_bind_of_ok on_currentInfo]
      simp only [show (quiet session).info = session.info from rfl]
      rw [if_pos unscoped]
      rfl
    · have unacceptable : ¬IsAcceptable pin := fun acceptable => h ⟨knows, acceptable, unscoped⟩
      obtain ⟨fault, refused⟩ := hash_eq_error unacceptable
      refine ⟨.invalidPin fault, ⟨pin, by simp [Handshake.pins, Handshake.proves], unacceptable⟩,
        on_unattended_of_still ?_⟩
      rw [on_bind_of_ok supported, on_bind_of_ok on_currentInfo]
      simp only [show (quiet session).info = session.info from rfl]
      rw [if_neg unscoped, refused]
      rfl
  · refine ⟨.notSupported .clientPin, trivial, on_unattended_of_still ?_⟩
    have unsupported : ¬(quiet session).info.knowsPins := knows
    rw [on_bind, requireSupport_on_of_not unsupported]

theorem getTokenByVerification_of_not_allowed {permissions : Permissions} {rpId : Option String}
    (h : ¬session.info.issuesScopedTokens) : (getTokenByVerification protocol permissions rpId).on session =
      (.error (.notSupported .uvToken), session) := by
  unfold getTokenByVerification
  rw [on_bind_of_ok on_currentInfo]
  simp only [h, Bool.not_false, if_true]
  rfl

theorem setFirst_of_not_allowed (h : ¬(Handshake.setFirst pin).IsAllowed session.info) :
    ∃ failure, (Handshake.setFirst pin).Refuses failure ∧
      (setFirst protocol pin).on session = (.error failure, session) := by
  by_cases knows : session.info.knowsPins
  · have supported : requireSupport.on (quiet session) = (.ok (), quiet session) := requireSupport_on knows
    have unacceptable : ¬IsAcceptable pin := fun acceptable => h ⟨knows, acceptable⟩
    obtain ⟨fault, refused⟩ := prepare_eq_error unacceptable
    refine ⟨.invalidPin fault, ⟨pin, by simp [Handshake.pins, Handshake.sets], unacceptable⟩,
      on_unattended_of_still ?_⟩
    rw [on_bind_of_ok supported, refused]
    rfl
  · refine ⟨.notSupported .clientPin, trivial, on_unattended_of_still ?_⟩
    have unsupported : ¬(quiet session).info.knowsPins := knows
    rw [on_bind, requireSupport_on_of_not unsupported]

theorem change_of_not_allowed (h : ¬(Handshake.change current new).IsAllowed session.info) :
    ∃ failure, (Handshake.change current new).Refuses failure ∧
      (change protocol current new).on session = (.error failure, session) := by
  by_cases knows : session.info.knowsPins
  · have supported : requireSupport.on (quiet session) = (.ok (), quiet session) := requireSupport_on knows
    by_cases acceptable : IsAcceptable current
    · have unacceptable : ¬IsAcceptable new := fun acceptable' => h ⟨knows, acceptable, acceptable'⟩
      obtain ⟨bytes, accepted⟩ := acceptable
      obtain ⟨fault, refused⟩ := prepare_eq_error unacceptable
      refine ⟨.invalidPin fault, ⟨new, by simp [Handshake.pins, Handshake.sets], unacceptable⟩,
        on_unattended_of_still ?_⟩
      rw [on_bind_of_ok supported, accepted, refused]
      rfl
    · obtain ⟨fault, refused⟩ := prepare_eq_error acceptable
      refine ⟨.invalidPin fault, ⟨current, by simp [Handshake.pins, Handshake.proves], acceptable⟩,
        on_unattended_of_still ?_⟩
      rw [on_bind_of_ok supported, refused]
      rfl
  · refine ⟨.notSupported .clientPin, trivial, on_unattended_of_still ?_⟩
    have unsupported : ¬(quiet session).info.knowsPins := knows
    rw [on_bind, requireSupport_on_of_not unsupported]

/-- An operation that is not allowed is refused, and leaves the session as it was. -/
theorem perform_of_not_allowed (h : ¬handshake.IsAllowed session.info) :
    ∃ failure, handshake.Refuses failure ∧ (handshake.perform protocol).on session = (.error failure, session) := by
  cases handshake with
  | token pin permissions rpId =>
    obtain ⟨failure, refuses, refused⟩ := getToken_of_not_allowed protocol h
    exact ⟨failure, refuses, by rw [Handshake.perform, on_map, refused]; rfl⟩
  | verification permissions rpId =>
    exact ⟨.notSupported .uvToken, trivial, by
      rw [Handshake.perform, on_map, getTokenByVerification_of_not_allowed protocol h]; rfl⟩
  | setFirst pin =>
    obtain ⟨failure, refuses, refused⟩ := setFirst_of_not_allowed protocol h
    exact ⟨failure, refuses, by rw [Handshake.perform, on_map, refused]; rfl⟩
  | change current new =>
    obtain ⟨failure, refuses, refused⟩ := change_of_not_allowed protocol h
    exact ⟨failure, refuses, by rw [Handshake.perform, on_map, refused]; rfl⟩

end Refused

/-! ## Operations without an agreement -/

section Unmet

variable (unmet : ∀ agreement, ¬Accepted protocol session agreement)
include unmet

theorem fails_unattended_agree {α : Type} (next : PinProtocol.Agreement → Operation α) :
    (unattended (agree protocol >>= next)).Fails [keyRequest protocol] session :=
  .unattended (fails_agree fun agreement accepted => unmet agreement (accepted_quiet.1 accepted)).bind

theorem fails_perform_of_not_accepted (allowed : handshake.IsAllowed session.info) :
    (handshake.perform protocol).Fails [keyRequest protocol] session := by
  cases handshake with
  | token pin permissions rpId =>
    obtain ⟨knows, acceptable, scope⟩ := allowed
    exact .bind (.of_on_eq (getToken_on knows acceptable scope) (fails_unattended_agree unmet _))
  | verification permissions rpId =>
    exact .bind (.of_on_eq (getTokenByVerification_on allowed) (fails_agree unmet).bind)
  | setFirst pin =>
    obtain ⟨knows, acceptable⟩ := allowed
    exact .bind (.of_on_eq (setFirst_on knows acceptable) (fails_unattended_agree unmet _))
  | change current new =>
    obtain ⟨knows, acceptable, acceptable'⟩ := allowed
    exact .bind (.of_on_eq (change_on knows acceptable acceptable') (fails_unattended_agree unmet _))

end Unmet

/-! ## Every operation -/

/-- The requests that an operation makes, by what becomes of it. -/
inductive Handshake.Asks (handshake : Handshake) (protocol : PinProtocol) (session : Session) :
    List PinParameters → Prop where
  | refused : ¬handshake.IsAllowed session.info → handshake.Asks protocol session []
  | unmet : handshake.IsAllowed session.info → (∀ agreement, ¬Accepted protocol session agreement) →
      handshake.Asks protocol session [Pin.parameters protocol 0x02]
  | final {agreement : PinProtocol.Agreement} {parameters : PinParameters} : handshake.IsAllowed session.info →
      Accepted protocol session agreement → handshake.Final protocol session.info agreement parameters →
      handshake.Asks protocol session [Pin.parameters protocol 0x02, parameters]

theorem Handshake.Asks.ordered {asked : List PinParameters} (h : handshake.Asks protocol session asked)
    {parameters : PinParameters} (mem : parameters ∈ asked) : parameters.Ordered := by
  cases h with
  | refused => cases mem
  | unmet =>
    cases List.mem_singleton.1 mem
    exact ordered_keyRequest protocol
  | final allowed accepted final =>
    rcases List.mem_pair.1 mem with rfl | rfl
    · exact ordered_keyRequest protocol
    · exact accepted.ordered final.key

/-- Only a request that follows an accepted key holds something that was derived from a PIN, and it names that key
agreement. -/
theorem Handshake.Asks.accepted {asked : List PinParameters} (h : handshake.Asks protocol session asked)
    {parameters : PinParameters} (mem : parameters ∈ asked)
    (derived : parameters.pinHashEnc ≠ none ∨ parameters.newPinEnc ≠ none) :
    ∃ agreement, Accepted protocol session agreement ∧ parameters.keyAgreement = some agreement.platformKey := by
  cases h with
  | refused => cases mem
  | unmet =>
    cases List.mem_singleton.1 mem
    simp [Pin.parameters] at derived
  | final allowed accepted final =>
    rcases List.mem_pair.1 mem with rfl | rfl
    · simp [Pin.parameters] at derived
    · exact ⟨_, accepted, final.key⟩

theorem exists_asks (handshake : Handshake) (protocol : PinProtocol) (session : Session) :
    ∃ asked, handshake.Asks protocol session asked ∧
      session.link.Carried (asked.map PinParameters.message) ((handshake.perform protocol).on session).2.link := by
  by_cases allowed : handshake.IsAllowed session.info
  · by_cases met : ∃ agreement, Accepted protocol session agreement
    · obtain ⟨agreement, accepted⟩ := met
      obtain ⟨parameters, final, runs⟩ := Handshake.exists_final allowed accepted
      exact ⟨_, .final allowed accepted final, (carried_agreed handshake protocol session).trans runs.carried⟩
    · have unmet := not_exists.1 met
      obtain ⟨failure, after, failed, carried⟩ := fails_perform_of_not_accepted unmet allowed
      exact ⟨_, .unmet allowed unmet, by rw [failed]; exact carried⟩
  · obtain ⟨failure, -, refused⟩ := perform_of_not_allowed protocol allowed
    exact ⟨_, .refused allowed, by rw [refused]; exact .nothing⟩

/-- Without scoped tokens, the permissions and the RP ID that a token is asked for make no difference. -/
theorem getToken_eq_of_not_scoped (unscoped : session.info.issuesScopedTokens = false) (pin : String)
    (permissions permissions' : Option Permissions) (rpId rpId' : Option String) :
    (getToken protocol pin permissions rpId).on session = (getToken protocol pin permissions' rpId').on session := by
  have same : (quiet session).info.issuesScopedTokens = false := unscoped
  unfold getToken
  refine unattended_congr ?_
  by_cases knows : session.info.knowsPins
  · have supported : requireSupport.on (quiet session) = (.ok (), quiet session) := requireSupport_on knows
    rw [on_bind_of_ok supported, on_bind_of_ok supported, on_bind_of_ok on_currentInfo, on_bind_of_ok on_currentInfo]
    simp only [same, Bool.false_eq_true, false_and, if_false]
    rfl
  · have refused : ¬(quiet session).info.knowsPins := knows
    rw [on_bind, on_bind, requireSupport_on_of_not refused]

/-- An operation makes the requests that `Asks` tells, all of which can be written; what was derived from a PIN is only
in one that follows an accepted key. -/
theorem asks_for_given_scope (handshake : Handshake) (protocol : PinProtocol) (session : Session) :
    (∃ asked, handshake.Asks protocol session asked ∧
      session.link.Carried (asked.map PinParameters.message) ((handshake.perform protocol).on session).2.link ∧
      ∀ parameters ∈ asked,
        Request.encode .clientPin (some parameters.toValue) = .ok parameters.message ∧
        (parameters.pinHashEnc ≠ none ∨ parameters.newPinEnc ≠ none → ∃ agreement,
          Accepted protocol session agreement ∧ parameters.keyAgreement = some agreement.platformKey)) ∧
    (session.info.issuesScopedTokens = false → ∀ pin permissions permissions' rpId rpId',
      (getToken protocol pin permissions rpId).on session = (getToken protocol pin permissions' rpId').on session) := by
  obtain ⟨asked, asks, carried⟩ := exists_asks handshake protocol session
  exact ⟨⟨asked, asks, carried, fun parameters mem => ⟨(asks.ordered mem).encode, asks.accepted mem⟩⟩,
    getToken_eq_of_not_scoped⟩

end SecurityKey.Pin
