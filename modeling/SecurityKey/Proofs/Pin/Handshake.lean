import SecurityKey.Proofs.Pin.KeyAgreement

/-!
# Handshakes

Each operation that needs a PIN or gives a token agrees on a secret first, and then sends one request whose parameters
are sealed with that secret.
-/

namespace SecurityKey.Pin

open Cbor (Value)

open Crypto Operation

variable {protocol : PinProtocol} {session : Session} {authenticator : P256.PrivateKey} {z : Bytes}
  {agreement : PinProtocol.Agreement} {parameters : PinParameters} {point : Bytes}

/-! ## The operations -/

/-- The operations that begin with a key agreement. -/
inductive Handshake where
  | token (pin : String) (permissions : Option Permissions) (rpId : Option String)
  | verification (permissions : Permissions) (rpId : Option String)
  | setFirst (pin : String)
  | change (current new : String)

namespace Handshake

/-- Does the operation; two of them give a token. -/
def perform (protocol : PinProtocol) : Handshake → Operation (Option Token)
  | token pin permissions rpId => do return some (← getToken protocol pin permissions rpId)
  | verification permissions rpId => do return some (← getTokenByVerification protocol permissions rpId)
  | setFirst pin => do
    Pin.setFirst protocol pin
    return none
  | change current new => do
    Pin.change protocol current new
    return none

/-- The PIN that the platform has to know. -/
def proves : Handshake → Option String
  | token pin _ _ => some pin
  | verification _ _ => none
  | setFirst _ => none
  | change current _ => some current

/-- The PIN that the authenticator is to take. -/
def sets : Handshake → Option String
  | token _ _ _ => none
  | verification _ _ => none
  | setFirst pin => some pin
  | change _ new => some new

/-- Whether the authenticator is asked for a token. -/
def asksForToken : Handshake → Bool
  | token _ _ _ => true
  | verification _ _ => true
  | setFirst _ => false
  | change _ _ => false

/-- The operation is not refused before anything is sent, and an RP ID has a size that a head can hold. -/
def Ready (info : Info) : Handshake → Prop
  | token pin permissions rpId =>
    info.knowsPins ∧ IsAcceptable pin ∧ ¬(info.issuesScopedTokens ∧ permissions.isNone ∧ rpId.isSome) ∧
      ∀ id, rpId = some id → (Bytes.ofText id).length < 2 ^ 64
  | verification _ rpId => info.issuesScopedTokens ∧ ∀ id, rpId = some id → (Bytes.ofText id).length < 2 ^ 64
  | setFirst pin => info.knowsPins ∧ IsAcceptable pin
  | change current new => info.knowsPins ∧ IsAcceptable current ∧ IsAcceptable new

/-- The operation is not refused before anything is sent. -/
def IsAllowed (info : Info) : Handshake → Prop
  | token pin permissions rpId =>
    info.knowsPins ∧ IsAcceptable pin ∧ ¬(info.issuesScopedTokens ∧ permissions.isNone ∧ rpId.isSome)
  | verification _ _ => info.issuesScopedTokens
  | setFirst pin => info.knowsPins ∧ IsAcceptable pin
  | change current new => info.knowsPins ∧ IsAcceptable current ∧ IsAcceptable new

/-- The sub-command of the last request. -/
def subCommand (info : Info) : Handshake → UInt8
  | token _ permissions _ => if info.issuesScopedTokens && permissions.isSome then 0x09 else 0x05
  | verification _ _ => 0x06
  | setFirst _ => 0x03
  | change _ _ => 0x04

/-- The permissions and the RP ID in the last request. -/
def scope (info : Info) : Handshake → Option UInt8 × Option String
  | token _ permissions rpId =>
    if info.issuesScopedTokens && permissions.isSome then (permissions.map (·.byte), rpId) else (none, none)
  | verification permissions rpId => (some permissions.byte, rpId)
  | setFirst _ => (none, none)
  | change _ _ => (none, none)

/-- The session in which the exchanges of an operation run. -/
def inner (handshake : Handshake) (session : Session) : Session :=
  match handshake with
  | verification _ _ => session
  | _ => quiet session

/-- Parameters under which the authenticator finds what the operation is to tell it. -/
structure Sealed (handshake : Handshake) (protocol : PinProtocol) (key : Value) (secret : Bytes)
    (parameters : PinParameters) : Prop where
  version : parameters.pinUvAuthProtocol = some protocol.version
  key : parameters.keyAgreement = some key
  pinHash : parameters.pinHashEnc.map (protocol.decrypt secret) = handshake.proves.map fun pin => .ok (proofOf pin)
  newPin : parameters.newPinEnc.map (protocol.decrypt secret) = handshake.sets.map fun pin => .ok (padded pin)
  code : parameters.pinUvAuthParam = handshake.sets.map fun _ =>
    protocol.authenticate secret (parameters.newPinEnc.getD [] ++ parameters.pinHashEnc.getD [])

/-- Parameters that ask for exactly what the operation is to ask for, sealed with an agreement. -/
structure Final (handshake : Handshake) (protocol : PinProtocol) (info : Info) (agreement : PinProtocol.Agreement)
    (parameters : PinParameters) : Prop
    extends Sealed handshake protocol agreement.platformKey agreement.secret parameters where
  subCommand : parameters.subCommand = handshake.subCommand info
  scope : (parameters.permissions, parameters.rpId) = handshake.scope info

end Handshake

/-- The token in the answer to a sealed request. -/
def receive (protocol : PinProtocol) (secret : Bytes) (answer : Result (Option Response)) : Result Token := do
  let response ← Session.expectData "Token request" (← answer)
  let encrypted ← response.require .bytes 0x02
  let bytes ← (protocol.decrypt secret encrypted).mapError Failure.crypto
  return { protocol, bytes }

theorem requestToken_on (h : (parameters.withKey agreement.platformKey).Ordered) (session : Session) :
    (requestToken protocol agreement parameters).on session =
      (receive protocol agreement.secret
          (Session.exchanged (parameters.withKey agreement.platformKey).message session).1,
        (Session.exchanged (parameters.withKey agreement.platformKey).message session).2) := by
  unfold requestToken receive
  rw [on_bind, ← PinParameters.withKey, send_on h]
  simp only [on_bind, on_liftM]
  rcases Session.exchanged _ session with ⟨_ | answer, after⟩
  · rfl
  · simp only [bind, Except.bind]
    cases Session.expectData "Token request" answer with
    | error failure => rfl
    | ok response =>
        simp only
        cases response.require .bytes 0x02 with
        | error failure => rfl
        | ok encrypted =>
            simp only
            cases (protocol.decrypt agreement.secret encrypted).mapError Failure.crypto <;> rfl

theorem receive_eq {secret token encrypted : Bytes} {response : Response}
    (held : response.get? 0x02 = some (.bytes encrypted)) (read : protocol.decrypt secret encrypted = .ok token) :
    receive protocol secret (.ok (some response)) = .ok ⟨protocol, token⟩ := by
  have required : response.require .bytes 0x02 = .ok encrypted := by
    unfold Response.require Response.field
    rw [held]
    rfl
  simp only [receive, bind, Except.bind, Session.expectData, Result.ofOption]
  rw [required]
  simp only
  rw [read]
  rfl

/-! ## What an operation does -/

/-- An operation on a session ends with the exchange of a message, from the answer to which it concludes its result. -/
structure Concludes {α : Type} (operation : Operation α) (protocol : PinProtocol) (session : Session) (message : Bytes)
    (conclude : Result (Option Response) → Result α) : Prop where
  result : (operation.on session).1 = conclude (Session.exchanged message (agreedSession protocol session)).1
  link : (operation.on session).2.link = (Session.exchanged message (agreedSession protocol session)).2.link

/-- A token obtained by a proof, where the ciphertext of the proof goes into the given parameters. -/
def tokenBy (protocol : PinProtocol) (proof : Bytes) (final : Bytes → PinParameters) : Operation Token := do
  let agreement ← agree protocol
  let pinHashEnc ← encrypt protocol agreement.secret proof
  requestToken protocol agreement (final pinHashEnc)

/-- The parameters that set the first PIN. -/
def setParameters (protocol : PinProtocol) (agreement : PinProtocol.Agreement) (newPinEnc : Bytes) : PinParameters :=
  { Pin.parameters protocol 0x03 with
    keyAgreement := some agreement.platformKey
    pinUvAuthParam := some (protocol.authenticate agreement.secret newPinEnc)
    newPinEnc := some newPinEnc }

/-- The first PIN set to one that is not refused. -/
def setTo (protocol : PinProtocol) (padded : Bytes) : Operation Unit := do
  let agreement ← agree protocol
  let newPinEnc ← encrypt protocol agreement.secret padded
  let _ ← send (setParameters protocol agreement newPinEnc)

/-- The parameters that replace the PIN. -/
def changeParameters (protocol : PinProtocol) (agreement : PinProtocol.Agreement) (pinHashEnc newPinEnc : Bytes) :
    PinParameters :=
  { Pin.parameters protocol 0x04 with
    keyAgreement := some agreement.platformKey
    pinUvAuthParam := some (protocol.authenticate agreement.secret (newPinEnc ++ pinHashEnc))
    newPinEnc := some newPinEnc
    pinHashEnc := some pinHashEnc }

/-- The PIN replaced by one that is not refused, by a proof of the current one. -/
def changeTo (protocol : PinProtocol) (proof padded : Bytes) : Operation Unit := do
  let agreement ← agree protocol
  let pinHashEnc ← encrypt protocol agreement.secret proof
  let newPinEnc ← encrypt protocol agreement.secret padded
  let _ ← send (changeParameters protocol agreement pinHashEnc newPinEnc)

section Allowed

variable {session : Session} {pin current new : String}

theorem requireSupport_on (knows : session.info.knowsPins) : requireSupport.on session = (.ok (), session) := by
  unfold requireSupport
  simp [knows]

theorem getToken_on {permissions : Option Permissions} {rpId : Option String} (knows : session.info.knowsPins)
    (acceptable : IsAcceptable pin) (scope : ¬(session.info.issuesScopedTokens ∧ permissions.isNone ∧ rpId.isSome)) :
    (getToken protocol pin permissions rpId).on session = (unattended (tokenBy protocol (proofOf pin)
      (tokenParameters protocol session.info.issuesScopedTokens permissions rpId))).on session := by
  have supported : requireSupport.on (quiet session) = (.ok (), quiet session) := requireSupport_on knows
  have refused : ¬((quiet session).info.issuesScopedTokens ∧ permissions.isNone ∧ rpId.isSome) := scope
  unfold getToken
  refine unattended_congr ?_
  rw [on_bind_of_ok supported, on_bind_of_ok on_currentInfo]
  simp only
  rw [if_neg refused, hash_eq acceptable]
  rfl

/-- A PIN that was acceptable before the agreement is not refused when it is sealed. -/
theorem setMessage_eq (acceptable : IsAcceptable pin) (secret : Bytes) : setMessage protocol secret pin = (do
    let newPinEnc ← encrypt protocol secret (padded pin)
    return ⟨newPinEnc, protocol.authenticate secret newPinEnc⟩) := by
  unfold setMessage
  rw [preparePadded_eq acceptable]
  rfl

/-- PINs that were acceptable before the agreement are not refused when they are sealed. -/
theorem changeMessage_eq (acceptable : IsAcceptable current) (acceptable' : IsAcceptable new) (secret : Bytes) :
    changeMessage protocol secret current new = (do
      let pinHashEnc ← encrypt protocol secret (proofOf current)
      let newPinEnc ← encrypt protocol secret (padded new)
      return ⟨newPinEnc, pinHashEnc, protocol.authenticate secret (newPinEnc ++ pinHashEnc)⟩) := by
  unfold changeMessage
  rw [preparePadded_eq acceptable', hash_eq acceptable]
  rfl

theorem setFirst_on (knows : session.info.knowsPins) (acceptable : IsAcceptable pin) :
    (setFirst protocol pin).on session = (unattended (setTo protocol (padded pin))).on session := by
  have supported : requireSupport.on (quiet session) = (.ok (), quiet session) := requireSupport_on knows
  obtain ⟨bytes, accepted⟩ := acceptable
  unfold setFirst
  refine unattended_congr ?_
  rw [on_bind_of_ok supported, accepted]
  simp only [setMessage_eq ⟨bytes, accepted⟩, bind_assoc, pure_bind]
  rfl

theorem change_on (knows : session.info.knowsPins) (acceptable : IsAcceptable current)
    (acceptable' : IsAcceptable new) : (change protocol current new).on session =
      (unattended (changeTo protocol (proofOf current) (padded new))).on session := by
  have supported : requireSupport.on (quiet session) = (.ok (), quiet session) := requireSupport_on knows
  obtain ⟨bytes, accepted⟩ := acceptable
  obtain ⟨bytes', accepted'⟩ := acceptable'
  unfold change
  refine unattended_congr ?_
  rw [on_bind_of_ok supported, accepted, accepted']
  simp only [changeMessage_eq ⟨bytes, accepted⟩ ⟨bytes', accepted'⟩, bind_assoc, pure_bind]
  rfl

end Allowed

section Sealing

theorem Accepted.ordered (h : Accepted protocol session agreement)
    (same : parameters.keyAgreement = some agreement.platformKey) : parameters.Ordered := by
  intro key given
  cases same.symm.trans given
  exact CoseKey.order_ofPoint h.ofPoint

theorem concludes_tokenBy (h : Accepted protocol session agreement) {proof : Bytes} (whole : proof.length % 16 = 0)
    (final : Bytes → PinParameters) : ∃ pinHashEnc, protocol.decrypt agreement.secret pinHashEnc = .ok proof ∧
      Concludes (tokenBy protocol proof final) protocol session
        ((final pinHashEnc).withKey agreement.platformKey).message (receive protocol agreement.secret) := by
  obtain ⟨pinHashEnc, encrypted, read⟩ := encrypt_on h.length_secret whole (agreedSession protocol session)
  refine ⟨pinHashEnc, read, ?_, ?_⟩ <;>
    rw [tokenBy, on_bind_of_ok h.agree_on, on_bind_of_ok encrypted, requestToken_on (h.ordered rfl)] <;> rfl

theorem Concludes.of_send {operation : Operation Unit} (after : Session) (h : parameters.Ordered)
    (reached : operation.on session = (do let _ ← send parameters : Operation Unit).on after)
    (same : after.link = (agreedSession protocol session).link) :
    Concludes operation protocol session parameters.message fun answer => answer.map fun _ => () := by
  rw [on_bind, send_on h] at reached
  constructor <;> rw [reached] <;> simp only [Session.exchanged, same] <;>
    cases (((agreedSession protocol session).link.sendCbor parameters.message).1.mapError Failure.link).bind
      Response.ofAnswer <;> rfl

theorem concludes_setTo (h : Accepted protocol session agreement) {padded : Bytes} (whole : padded.length % 16 = 0) :
    ∃ newPinEnc, protocol.decrypt agreement.secret newPinEnc = .ok padded ∧
      Concludes (setTo protocol padded) protocol session (setParameters protocol agreement newPinEnc).message
        fun answer => answer.map fun _ => () := by
  obtain ⟨newPinEnc, encrypted, read⟩ := encrypt_on h.length_secret whole (agreedSession protocol session)
  refine ⟨newPinEnc, read, .of_send (drawnSession (agreedSession protocol session)) (h.ordered rfl) ?_ rfl⟩
  rw [setTo, on_bind_of_ok h.agree_on, on_bind_of_ok encrypted]

theorem concludes_changeTo (h : Accepted protocol session agreement) {proof padded : Bytes}
    (whole : proof.length % 16 = 0) (whole' : padded.length % 16 = 0) :
    ∃ pinHashEnc newPinEnc, protocol.decrypt agreement.secret pinHashEnc = .ok proof ∧
      protocol.decrypt agreement.secret newPinEnc = .ok padded ∧
      Concludes (changeTo protocol proof padded) protocol session
        (changeParameters protocol agreement pinHashEnc newPinEnc).message fun answer => answer.map fun _ => () := by
  obtain ⟨pinHashEnc, encrypted, read⟩ := encrypt_on h.length_secret whole (agreedSession protocol session)
  obtain ⟨newPinEnc, encrypted', read'⟩ :=
    encrypt_on h.length_secret whole' (drawnSession (agreedSession protocol session))
  refine ⟨pinHashEnc, newPinEnc, read, read',
    .of_send (drawnSession (drawnSession (agreedSession protocol session))) (h.ordered rfl) ?_ rfl⟩
  rw [changeTo, on_bind_of_ok h.agree_on, on_bind_of_ok encrypted, on_bind_of_ok encrypted']

/-- The parameters that ask for a token by built-in user verification. -/
def verificationParameters (protocol : PinProtocol) (permissions : Permissions) (rpId : Option String) :
    PinParameters :=
  { Pin.parameters protocol 0x06 with permissions := some permissions.byte, rpId }

/-- A token obtained by built-in user verification that is not refused. -/
def verifiedToken (protocol : PinProtocol) (permissions : Permissions) (rpId : Option String) : Operation Token := do
  let agreement ← agree protocol
  requestToken protocol agreement (verificationParameters protocol permissions rpId)

theorem getTokenByVerification_on {permissions : Permissions} {rpId : Option String}
    (granted : session.info.issuesScopedTokens) : (getTokenByVerification protocol permissions rpId).on session =
      (verifiedToken protocol permissions rpId).on session := by
  unfold getTokenByVerification
  rw [on_bind_of_ok on_currentInfo]
  simp only [granted, Bool.not_true, Bool.false_eq_true, if_false]
  rfl

theorem concludes_verifiedToken (h : Accepted protocol session agreement) (permissions : Permissions)
    (rpId : Option String) : Concludes (verifiedToken protocol permissions rpId) protocol session
      ((verificationParameters protocol permissions rpId).withKey agreement.platformKey).message
      (receive protocol agreement.secret) := by
  constructor <;> rw [verifiedToken, on_bind_of_ok h.agree_on, requestToken_on (h.ordered rfl)]

end Sealing

/-! ## Whole operations -/

theorem Concludes.unattended {α : Type} {operation : Operation α} {message : Bytes}
    {conclude : Result (Option Response) → Result α}
    (h : Concludes operation protocol (quiet session) message conclude) :
    ((unattended operation).on session).1 =
        conclude (Session.exchanged message (agreedSession protocol (quiet session))).1 ∧
      (agreedSession protocol (quiet session)).link.Carried [message] ((unattended operation).on session).2.link := by
  rw [on_unattended]
  refine ⟨h.result, ?_⟩
  simp only [h.link]
  exact (Link.Carried.one message).heed _

namespace Handshake

variable {handshake : Handshake}

/-- An operation exchanges one sealed message after the key agreement, and one that asks for a token takes it from the
answer. -/
structure Runs (handshake : Handshake) (protocol : PinProtocol) (session : Session) (secret message : Bytes) :
    Prop where
  carried : (agreedSession protocol (handshake.inner session)).link.Carried [message]
    ((handshake.perform protocol).on session).2.link
  token : handshake.asksForToken → ((handshake.perform protocol).on session).1 =
    (receive protocol secret (Session.exchanged message (agreedSession protocol (handshake.inner session))).1).map some

theorem final_tokenParameters {pin : String} {permissions : Option Permissions} {rpId : Option String}
    {pinHashEnc : Bytes} (read : protocol.decrypt agreement.secret pinHashEnc = .ok (proofOf pin)) (info : Info) :
    Final (.token pin permissions rpId) protocol info agreement
      ((tokenParameters protocol info.issuesScopedTokens permissions rpId pinHashEnc).withKey
        agreement.platformKey) := by
  refine ⟨?_, ?_, ?_⟩
  · cases info.issuesScopedTokens <;> cases permissions <;> constructor <;>
      simp [tokenParameters, Pin.parameters, PinParameters.withKey, proves, sets, read]
  · cases granted : info.issuesScopedTokens <;> cases permissions <;>
      simp [tokenParameters, Pin.parameters, PinParameters.withKey, subCommand, granted]
  · cases granted : info.issuesScopedTokens <;> cases permissions <;>
      simp [tokenParameters, Pin.parameters, PinParameters.withKey, scope, granted]

theorem runs_token {pin : String} {permissions : Option Permissions} {rpId : Option String}
    (allowed : IsAllowed session.info (.token pin permissions rpId)) (h : Accepted protocol session agreement) :
    ∃ parameters, Final (.token pin permissions rpId) protocol session.info agreement parameters ∧
      Runs (.token pin permissions rpId) protocol session agreement.secret parameters.message := by
  obtain ⟨knows, acceptable, scope⟩ := allowed
  have whole : (proofOf pin).length % 16 = 0 := by rw [length_proofOf]
  obtain ⟨pinHashEnc, read, concludes⟩ := concludes_tokenBy (accepted_quiet.2 h) whole
    (tokenParameters protocol session.info.issuesScopedTokens permissions rpId)
  obtain ⟨result, link⟩ := concludes.unattended
  refine ⟨_, final_tokenParameters read session.info, ?_, ?_⟩
  · rw [perform, on_map, getToken_on knows acceptable scope]
    exact link
  · intro
    rw [perform, on_map, getToken_on knows acceptable scope]
    exact congrArg (Except.map some) result

theorem runs_verification {permissions : Permissions} {rpId : Option String}
    (allowed : IsAllowed session.info (.verification permissions rpId)) (h : Accepted protocol session agreement) :
    ∃ parameters, Final (.verification permissions rpId) protocol session.info agreement parameters ∧
      Runs (.verification permissions rpId) protocol session agreement.secret parameters.message := by
  obtain ⟨result, link⟩ := concludes_verifiedToken h permissions rpId
  refine ⟨(verificationParameters protocol permissions rpId).withKey agreement.platformKey,
    ⟨⟨rfl, rfl, rfl, rfl, rfl⟩, rfl, rfl⟩, ?_, ?_⟩
  · rw [perform, on_map, getTokenByVerification_on allowed, link]
    exact .one _
  · intro
    rw [perform, on_map, getTokenByVerification_on allowed]
    exact congrArg (Except.map some) result

theorem runs_setFirst {pin : String} (allowed : IsAllowed session.info (.setFirst pin))
    (h : Accepted protocol session agreement) :
    ∃ parameters, Final (.setFirst pin) protocol session.info agreement parameters ∧
      Runs (.setFirst pin) protocol session agreement.secret parameters.message := by
  obtain ⟨knows, acceptable⟩ := allowed
  obtain ⟨newPinEnc, read, concludes⟩ := concludes_setTo (accepted_quiet.2 h) (by rw [length_padded acceptable])
  refine ⟨setParameters protocol agreement newPinEnc, ⟨?_, rfl, rfl⟩, ?_, ?_⟩
  · constructor <;> simp [setParameters, Pin.parameters, proves, sets, read]
  · rw [perform, on_map, setFirst_on knows acceptable]
    exact concludes.unattended.2
  · rintro ⟨⟩

theorem runs_change {current new : String} (allowed : IsAllowed session.info (.change current new))
    (h : Accepted protocol session agreement) :
    ∃ parameters, Final (.change current new) protocol session.info agreement parameters ∧
      Runs (.change current new) protocol session agreement.secret parameters.message := by
  obtain ⟨knows, acceptable, acceptable'⟩ := allowed
  have whole : (proofOf current).length % 16 = 0 := by rw [length_proofOf]
  obtain ⟨pinHashEnc, newPinEnc, read, read', concludes⟩ :=
    concludes_changeTo (accepted_quiet.2 h) whole (by rw [length_padded acceptable'])
  refine ⟨changeParameters protocol agreement pinHashEnc newPinEnc, ⟨?_, rfl, rfl⟩, ?_, ?_⟩
  · constructor <;> simp [changeParameters, Pin.parameters, proves, sets, read, read']
  · rw [perform, on_map, change_on knows acceptable acceptable']
    exact concludes.unattended.2
  · rintro ⟨⟩

/-- An operation that is not refused runs with every agreement that the platform accepts. -/
theorem exists_final (allowed : handshake.IsAllowed session.info) (h : Accepted protocol session agreement) :
    ∃ parameters, handshake.Final protocol session.info agreement parameters ∧
      handshake.Runs protocol session agreement.secret parameters.message := by
  cases handshake with
  | token pin permissions rpId => exact runs_token allowed h
  | verification permissions rpId => exact runs_verification allowed h
  | setFirst pin => exact runs_setFirst allowed h
  | change current new => exact runs_change allowed h

/-! ## Sizes -/

theorem Ready.isAllowed {info : Info} (h : handshake.Ready info) : handshake.IsAllowed info := by
  cases handshake with
  | token pin permissions rpId => exact ⟨h.1, h.2.1, h.2.2.1⟩
  | verification permissions rpId => exact h.1
  | setFirst pin => exact h
  | change current new => exact h

theorem IsAllowed.isAcceptable {info : Info} {pin : String} (h : handshake.IsAllowed info)
    (sets : handshake.sets = some pin) : IsAcceptable pin := by
  cases handshake with
  | token | verification => cases sets
  | setFirst new => cases sets; exact h.2
  | change current new => cases sets; exact h.2.2

theorem Ready.length_rpId {info : Info} {id : String} (h : handshake.Ready info)
    (asked : (handshake.scope info).2 = some id) : (Bytes.ofText id).length < 2 ^ 64 := by
  cases handshake with
  | token pin permissions rpId =>
    simp only [Handshake.scope] at asked
    split_ifs at asked
    exact h.2.2.2 id asked
  | verification permissions rpId => exact h.2 id asked
  | setFirst | change => cases asked

theorem Final.sound {info : Info} (h : handshake.Final protocol info agreement parameters)
    (ready : handshake.Ready info)
    (written : CoseKey.ofPoint CoseKey.keyAgreement point = .ok agreement.platformKey) : parameters.Sound point := by
  constructor
  · intro key given
    cases h.key.symm.trans given
    exact written
  · intro code given
    obtain ⟨pin, -, rfl⟩ := Option.map_eq_some_iff.1 (h.code.symm.trans given)
    exact Nat.lt_of_le_of_lt (PinProtocol.length_authenticate_le ..) (by decide)
  · intro newPinEnc given
    have found := h.newPin
    rw [given, Option.map_some] at found
    obtain ⟨pin, sets, read⟩ := Option.map_eq_some_iff.1 found.symm
    have short := PinProtocol.length_le_of_decrypt read.symm
    rw [length_padded (ready.isAllowed.isAcceptable sets)] at short
    omega
  · intro pinHashEnc given
    have found := h.pinHash
    rw [given, Option.map_some] at found
    obtain ⟨pin, -, read⟩ := Option.map_eq_some_iff.1 found.symm
    have short := PinProtocol.length_le_of_decrypt read.symm
    rw [length_proofOf] at short
    omega
  · intro id given
    exact ready.length_rpId ((congrArg Prod.snd h.scope).symm.trans given)

theorem exists_runs {key : Value} (ready : handshake.Ready session.info) (h : Agrees protocol session authenticator z)
    (written : CoseKey.ofPoint CoseKey.keyAgreement (platformKey session).publicKey = .ok key) :
    ∃ parameters, parameters.Sound (platformKey session).publicKey ∧
      handshake.Sealed protocol key (protocol.derive z) parameters ∧
      handshake.Runs protocol session (protocol.derive z) parameters.message := by
  obtain ⟨other, accepted⟩ := h.accepted
  cases accepted.ofPoint.symm.trans written
  obtain ⟨parameters, final, runs⟩ := exists_final ready.isAllowed accepted
  exact ⟨parameters, final.sound ready written, final.toSealed, runs⟩

end Handshake

end SecurityKey.Pin
