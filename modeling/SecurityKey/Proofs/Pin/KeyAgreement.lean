import Mathlib.Tactic.SplitIfs
import SecurityKey.Proofs.Pin.Sealed
import SecurityKey.Proofs.Session.Operation

/-!
# The key agreement

A platform asks for the authenticator's key and derives a secret from it and a new key of its own. What it encrypts
under that secret, the authenticator can decrypt.
-/

namespace SecurityKey.Pin

open Cbor (Value)

open Crypto Operation

/-! ## The key agreement -/

/-- The request for the authenticator's key. -/
def keyRequest (protocol : PinProtocol) : Bytes :=
  (parameters protocol 0x02).message

/-- The private key that a session draws for a key agreement. -/
def platformKey (session : Session) : P256.PrivateKey :=
  .ofSeed (session.entropy.draw 32).1

/-- An authenticator answers the request for its key with the public key of `authenticator`, with which the platform
shares the coordinate `z`. Key agreement is symmetric: the authenticator computes what the platform computes. -/
structure Agrees (protocol : PinProtocol) (session : Session) (authenticator : P256.PrivateKey) (z : Bytes) : Prop where
  answered : ∃ answer response key, ((session.link.heed false).sendCbor (keyRequest protocol)).1 = .ok answer ∧
    Response.ofAnswer answer = .ok (some response) ∧ response.get? 0x01 = some key ∧
    CoseKey.ofPoint CoseKey.keyAgreement authenticator.publicKey = .ok key
  platform : (platformKey session).agree? authenticator.publicKey = some z
  symmetric : authenticator.agree? (platformKey session).publicKey =
    (platformKey session).agree? authenticator.publicKey

/-- The session after a key agreement. -/
def agreedSession (protocol : PinProtocol) (session : Session) : Session :=
  { session with
    link := ((session.link.heed false).sendCbor (keyRequest protocol)).2.heed session.link.isHeeding
    entropy := (session.entropy.draw 32).2 }

/-- The key in the authenticator's answer to the request for it. -/
def givenKey (protocol : PinProtocol) (session : Session) : Result Value := do
  let answer ← ((session.link.heed false).sendCbor (keyRequest protocol)).1.mapError Failure.link
  let response ← Session.expectData "getKeyAgreement" (← Response.ofAnswer answer)
  Result.ofOption (.missing "keyAgreement") (response.get? 0x01)

/-- The authenticator gives its key, and the platform accepts it for an agreement. -/
def Accepted (protocol : PinProtocol) (session : Session) (agreement : PinProtocol.Agreement) : Prop :=
  ∃ key, givenKey protocol session = .ok key ∧ protocol.agree (platformKey session) key = .ok agreement

variable {protocol : PinProtocol} {session : Session} {authenticator : P256.PrivateKey} {z : Bytes}
  {agreement : PinProtocol.Agreement} {parameters : PinParameters}

theorem send_on (h : parameters.Ordered) :
    (send parameters).on session = Session.exchanged parameters.message session :=
  Session.on_send_of_encode h.encode

theorem ordered_keyRequest (protocol : PinProtocol) : (Pin.parameters protocol 0x02).Ordered := by
  rintro _ ⟨⟩

/-- The key agreement fails with the key that is given, or as the platform's key meets it. -/
theorem agree_on (protocol : PinProtocol) (session : Session) : (agree protocol).on session =
    match givenKey protocol session with
    | .error failure => (.error failure, { agreedSession protocol session with entropy := session.entropy })
    | .ok key =>
      ((protocol.agree (platformKey session) key).mapError Failure.crypto, agreedSession protocol session) := by
  unfold agree givenKey
  rw [on_unattended]
  simp only [on_bind, send_on (ordered_keyRequest protocol), Session.exchanged]
  rw [show (quiet session).link = session.link.heed false from rfl, ← keyRequest]
  cases ((session.link.heed false).sendCbor (keyRequest protocol)).1 with
  | error failure => rfl
  | ok answer =>
    simp only [Except.mapError, Except.bind, bind]
    cases Response.ofAnswer answer with
    | error failure => rfl
    | ok response =>
      cases response with
      | none => rfl
      | some response =>
        simp only [Session.expectData, Result.ofOption, on_liftM]
        cases response.get? 0x01 with
        | none => rfl
        | some key => rfl

theorem Accepted.agree_on (h : Accepted protocol session agreement) :
    (agree protocol).on session = (.ok agreement, agreedSession protocol session) := by
  obtain ⟨key, given, met⟩ := h
  rw [Pin.agree_on, given]
  simp only [met]
  rfl

theorem carried_agreedSession (protocol : PinProtocol) (session : Session) :
    session.link.Carried [keyRequest protocol] (agreedSession protocol session).link :=
  (Link.Carried.one _).of_heed.heed _

/-- Without a key that the platform accepts, the key agreement fails after the request for the key. -/
theorem fails_agree (h : ∀ agreement, ¬Accepted protocol session agreement) :
    (agree protocol).Fails [keyRequest protocol] session := by
  unfold Fails
  rw [agree_on]
  cases given : givenKey protocol session with
  | error failure => exact ⟨failure, _, rfl, carried_agreedSession protocol session⟩
  | ok key =>
    simp only
    cases met : protocol.agree (platformKey session) key with
    | error failure => exact ⟨_, _, rfl, carried_agreedSession protocol session⟩
    | ok agreement => exact absurd ⟨key, given, met⟩ (h agreement)

theorem Accepted.length_secret (h : Accepted protocol session agreement) :
    agreement.secret.length = protocol.keyLength := by
  obtain ⟨key, -, met⟩ := h
  obtain ⟨point, z, -, -, same, -⟩ := PinProtocol.agree_eq_ok_iff.1 met
  rw [same, PinProtocol.length_derive]

theorem Accepted.ofPoint (h : Accepted protocol session agreement) :
    CoseKey.ofPoint CoseKey.keyAgreement (platformKey session).publicKey = .ok agreement.platformKey := by
  obtain ⟨key, -, met⟩ := h
  obtain ⟨point, z, -, -, -, written⟩ := PinProtocol.agree_eq_ok_iff.1 met
  exact written

theorem Agrees.accepted (h : Agrees protocol session authenticator z) :
    ∃ key, Accepted protocol session ⟨key, protocol.derive z⟩ := by
  obtain ⟨answer, response, peer, answered, decoded, held, sent⟩ := h.answered
  obtain ⟨key, written⟩ := CoseKey.exists_ofPoint (platformKey session)
  refine ⟨key, peer, ?_, PinProtocol.agree_eq_ok_iff.2
    ⟨authenticator.publicKey, z, CoseKey.toPoint_ofPoint (by decide) sent, h.platform, rfl, written⟩⟩
  simp only [givenKey, answered, Except.mapError, bind, Except.bind, decoded, Session.expectData, Result.ofOption, held]

theorem givenKey_quiet (protocol : PinProtocol) (session : Session) :
    givenKey protocol (quiet session) = givenKey protocol session := by
  simp only [givenKey, quiet, Link.heed_heed]

theorem accepted_quiet : Accepted protocol (quiet session) agreement ↔ Accepted protocol session agreement := by
  unfold Accepted
  rw [givenKey_quiet]
  rfl

/-! ## PINs and ciphertexts -/

/-- A PIN that may be sent. -/
def IsAcceptable (pin : String) : Prop :=
  ∃ bytes, prepare pin = .ok bytes

/-- What proves that the platform knows a PIN: the first half of its hash. -/
def proofOf (pin : String) : Bytes :=
  (sha256 (Bytes.ofText pin)).take 16

/-- A PIN with zeros up to 64 bytes. -/
def padded (pin : String) : Bytes :=
  Bytes.ofText pin ++ List.replicate (64 - (Bytes.ofText pin).length) 0

theorem prepare_eq_ok_iff {pin : String} {bytes : Bytes} : prepare pin = .ok bytes ↔
    4 ≤ pin.length ∧ (Bytes.ofText pin).length ≤ 63 ∧ bytes = Bytes.ofText pin := by
  unfold prepare
  split_ifs with short long
  · simp only [false_iff]
    omega
  · simp only [false_iff]
    omega
  · constructor
    · rintro ⟨⟩
      exact ⟨by omega, by omega, rfl⟩
    · rintro ⟨-, -, rfl⟩
      rfl

variable {pin : String}

theorem hash_eq (h : IsAcceptable pin) : Pin.hash pin = .ok (proofOf pin) := by
  obtain ⟨bytes, accepted⟩ := h
  obtain ⟨-, -, same⟩ := prepare_eq_ok_iff.1 accepted
  subst same
  simp [Pin.hash, accepted, proofOf, bind, Except.bind, pure, Except.pure]

theorem preparePadded_eq (h : IsAcceptable pin) : preparePadded pin = .ok (padded pin) := by
  obtain ⟨bytes, accepted⟩ := h
  obtain ⟨-, -, same⟩ := prepare_eq_ok_iff.1 accepted
  subst same
  simp [preparePadded, accepted, padded, bind, Except.bind, pure, Except.pure]

theorem length_proofOf (pin : String) : (proofOf pin).length = 16 := by
  simp [proofOf]

theorem length_padded (h : IsAcceptable pin) : (padded pin).length = 64 := by
  obtain ⟨bytes, accepted⟩ := h
  obtain ⟨-, short, -⟩ := prepare_eq_ok_iff.1 accepted
  simp only [padded, List.length_append, List.length_replicate]
  omega

theorem length_draw (n : Nat) (entropy : Entropy) : (entropy.draw n).1.length = n := by
  simp [Entropy.draw]

/-- The session after an initialization vector was drawn. -/
def drawnSession (session : Session) : Session :=
  { session with entropy := (session.entropy.draw 16).2 }

/-- What is encrypted on a session can be decrypted by whoever has the secret. -/
theorem encrypt_on {secret plain : Bytes} (fits : secret.length = protocol.keyLength) (whole : plain.length % 16 = 0)
    (session : Session) : ∃ encrypted,
      (encrypt protocol secret plain).on session = (.ok encrypted, drawnSession session) ∧
      protocol.decrypt secret encrypted = .ok plain := by
  obtain ⟨encrypted, made, read⟩ := PinProtocol.exists_encrypt fits (length_draw 16 session.entropy) whole
  refine ⟨encrypted, ?_, read⟩
  unfold encrypt
  rw [on_bind, on_random]
  simp only
  rw [made]
  rfl

end SecurityKey.Pin
