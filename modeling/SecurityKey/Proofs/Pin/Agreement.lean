import SecurityKey.Proofs.Pin.Handshake

/-!
# Agreement of both ends

Whatever operation begins with a key agreement: the authenticator derives the platform's secret from the one message
that follows, reads in it exactly what the platform wants to tell, and the token that it answers with arrives.
-/

namespace SecurityKey.Pin

open Cbor (Value)

open Crypto Operation

variable {protocol : PinProtocol} {session : Session} {authenticator : P256.PrivateKey} {z : Bytes}

/-! ## What the authenticator finds -/

namespace Handshake

/-- The authenticator with the private key `authenticator` finds in a message what the operation is to tell it: the
proof of the current PIN and the new PIN, each when there is one, and a code that belongs to what is encrypted when a
PIN is set. -/
structure Understood (handshake : Handshake) (protocol : PinProtocol) (authenticator : P256.PrivateKey)
    (secret message : Bytes) (request : SealedRequest) : Prop where
  read : SealedRequest.ofMessage? message = some request
  version : request.protocol = protocol
  derived : request.secret? authenticator = some secret
  pinHash : request.pinHash? secret = handshake.proves.map fun pin => .ok (proofOf pin)
  newPin : request.newPin? secret = handshake.sets.map fun pin => .ok (padded pin)
  authentic : request.isAuthentic? secret = handshake.sets.map fun _ => true

variable {handshake : Handshake} {parameters : PinParameters} {key : Value}

theorem Sealed.understood (h : handshake.Sealed protocol key (protocol.derive z) parameters)
    (sound : parameters.Sound (platformKey session).publicKey) (agrees : Agrees protocol session authenticator z) :
    handshake.Understood protocol authenticator (protocol.derive z) parameters.message
      (.ofParameters parameters protocol key) := by
  obtain ⟨code, newPin, pinHash⟩ := SealedRequest.bytes?_ofParameters parameters protocol key
  constructor
  · exact SealedRequest.ofMessage?_message sound h.version h.key
  · rfl
  · exact SealedRequest.secret?_ofParameters (sound.key key h.key) (agrees.symmetric.trans agrees.platform)
  · rw [SealedRequest.pinHash?, pinHash]
    exact h.pinHash
  · rw [SealedRequest.newPin?, newPin]
    exact h.newPin
  · rw [SealedRequest.isAuthentic?, code, newPin, pinHash, h.code, Option.map_map]
    refine Option.map_congr fun pin _ => ?_
    exact beq_iff_eq.2 rfl

end Handshake

/-! ## What the authenticator answers -/

/-- A message is answered with a token that is encrypted under a secret. -/
def Grants (protocol : PinProtocol) (link : Link) (secret message token : Bytes) : Prop :=
  ∃ answer response iv encrypted, (link.sendCbor message).1 = .ok answer ∧
    Response.ofAnswer answer = .ok (some response) ∧ response.get? 0x02 = some (.bytes encrypted) ∧
    iv.length = 16 ∧ protocol.encrypt secret iv token = .ok encrypted

/-- What an authenticator writes to give its key is read as that key. -/
theorem exists_keyAnswer (authenticator : P256.PrivateKey) : ∃ value encoded response key,
    keyAnswer authenticator = .ok value ∧ value.canonical = .ok encoded ∧
      Response.ofAnswer (0x00 :: encoded) = .ok (some response) ∧ response.get? 0x01 = some key ∧
      CoseKey.ofPoint CoseKey.keyAgreement authenticator.publicKey = .ok key := by
  obtain ⟨key, made⟩ := CoseKey.exists_ofPoint authenticator
  have each (argument : Value) (mem : some argument ∈ [some key]) : Request.IsArgument argument := by
    cases List.mem_singleton.1 mem
    exact PinParameters.isArgument_ofPoint made
  obtain ⟨encoded, written, decoded⟩ := Response.ofAnswer_pack (by simp) each
  refine ⟨_, encoded, _, key, ?_, written, decoded, rfl, made⟩
  rw [keyAnswer, made]
  rfl

/-- What an authenticator writes to give a token grants that token. -/
theorem exists_tokenAnswer {secret iv token : Bytes} (fits : secret.length = protocol.keyLength)
    (vector : iv.length = 16) (whole : token.length % 16 = 0) (size : token.length < 2 ^ 63) :
    ∃ value encoded, tokenAnswer protocol secret iv token = .ok value ∧ value.canonical = .ok encoded ∧
      ∀ link message, (Link.sendCbor message link).1 = .ok (0x00 :: encoded) →
        Grants protocol link secret message token := by
  obtain ⟨encrypted, made, read⟩ := PinProtocol.exists_encrypt fits vector whole
  have short := PinProtocol.length_le_of_decrypt read
  have each (argument : Value) (mem : some argument ∈ [none, some (.bytes encrypted)]) :
      Request.IsArgument argument := by
    obtain rfl : argument = .bytes encrypted := by simpa using mem
    exact Request.isArgument_bytes (by omega)
  obtain ⟨encoded, written, decoded⟩ := Response.ofAnswer_pack (by simp) each
  refine ⟨_, encoded, ?_, written, fun link message answered =>
    ⟨_, _, iv, encrypted, answered, decoded, rfl, vector, made⟩⟩
  rw [tokenAnswer, made]
  rfl

theorem receive_exchanged {secret message token : Bytes} (fits : secret.length = protocol.keyLength)
    (whole : token.length % 16 = 0) (h : Grants protocol session.link secret message token) :
    receive protocol secret (Session.exchanged message session).1 = .ok ⟨protocol, token⟩ := by
  obtain ⟨answer, response, iv, encrypted, answered, decoded, held, vector, made⟩ := h
  obtain ⟨same, made', read⟩ := PinProtocol.exists_encrypt fits vector whole
  cases made.symm.trans made'
  unfold Session.exchanged
  rw [answered]
  simp only [Except.mapError, Except.bind, decoded]
  exact receive_eq held read

/-! ## Both ends -/

/-- The session after the key agreement of an operation. -/
abbrev Handshake.agreed (handshake : Handshake) (protocol : PinProtocol) (session : Session) : Session :=
  agreedSession protocol (handshake.inner session)

theorem carried_agreed (handshake : Handshake) (protocol : PinProtocol) (session : Session) :
    session.link.Carried [keyRequest protocol] (handshake.agreed protocol session).link := by
  cases handshake with
  | verification permissions rpId => exact carried_agreedSession protocol session
  | token | setFirst | change => exact (carried_agreedSession protocol (quiet session)).of_heed

/-- An operation that is not refused sends the request for the authenticator's key and one message. In that message the
authenticator finds the secret that the platform derived and everything the operation is to tell it, and the token that
the authenticator grants in its answer is the token that the operation gives. -/
theorem both_ends_agree {handshake : Handshake} (ready : handshake.Ready session.info)
    (agrees : Agrees protocol session authenticator z) :
    ∃ message request, handshake.Understood protocol authenticator (protocol.derive z) message request ∧
      session.link.Carried [keyRequest protocol] (handshake.agreed protocol session).link ∧
      (handshake.agreed protocol session).link.Carried [message] ((handshake.perform protocol).on session).2.link ∧
      ∀ token : Bytes, handshake.asksForToken → token.length % 16 = 0 →
        Grants protocol (handshake.agreed protocol session).link (protocol.derive z) message token →
        ((handshake.perform protocol).on session).1 = .ok (some ⟨protocol, token⟩) := by
  obtain ⟨key, written⟩ := CoseKey.exists_ofPoint (platformKey session)
  obtain ⟨parameters, sound, sealed, runs⟩ := handshake.exists_runs ready agrees written
  refine ⟨parameters.message, _, sealed.understood sound agrees, carried_agreed handshake protocol session,
    runs.carried, fun token asks whole grants => ?_⟩
  rw [runs.token asks, receive_exchanged (protocol.length_derive z) whole grants]
  rfl

/-- The private key of an authenticator. -/
def granter : P256.PrivateKey := ⟨2⟩

/-- The token that it grants. -/
def grantedToken : Bytes := List.replicate 32 0x5A

/-- A source that counts. -/
def counting : Entropy := { stream := .ofNat }

/-- The coordinate that the authenticator shares with the first key that is drawn from the source. -/
def sharedCoordinate : Bytes :=
  (granter.agree? (P256.PrivateKey.ofSeed (counting.draw 32).1).publicKey).getD []

/-- A frame that answers with a value. -/
def answering (value : Option Value) : Hid.Frame :=
  .ofCommand .cbor (0x00 :: (value.bind fun value => value.canonical.toOption).getD [])

/-- What the authenticator answers to grant the token. -/
def grantedAnswer : Except Crypto.Failure Value :=
  tokenAnswer .two (PinProtocol.derive .two sharedCoordinate) (List.replicate 16 0) grantedToken

/-- A session with an authenticator that gives its key and then a token. -/
def grantingSession : Session where
  link := .hid {
    arrivals := [
      .message (answering (keyAnswer granter).toOption), .message (answering grantedAnswer.toOption)]
    sent := []
    control := none } none
  info := { options := .ofList [("clientPin", true)] }
  config := {}
  entropy := counting

theorem agrees_grantingSession : Agrees .two grantingSession granter sharedCoordinate where
  answered := by
    obtain ⟨value, encoded, response, key, given, written, decoded, held, made⟩ := exists_keyAnswer granter
    have answered : ((grantingSession.link.heed false).sendCbor (keyRequest .two)).1 =
        .ok (answering (keyAnswer granter).toOption).payload := rfl
    rw [given] at answered
    simp only [answering, Except.toOption, Option.bind_some, written, Option.getD_some] at answered
    exact ⟨_, response, key, answered, decoded, held, made⟩
  platform := by decide +kernel
  symmetric := by decide +kernel

theorem token_of_grantingSession : (Handshake.token "1234" none none).Ready grantingSession.info ∧
    Agrees .two grantingSession granter sharedCoordinate ∧
    (((Handshake.token "1234" none none).perform .two).on grantingSession).1 = .ok (some ⟨.two, grantedToken⟩) := by
  have ready : (Handshake.token "1234" none none).Ready grantingSession.info :=
    ⟨rfl, ⟨_, prepare_eq_ok_iff.2 ⟨by decide, by decide, rfl⟩⟩, by simp, by simp⟩
  obtain ⟨message, request, -, -, -, gives⟩ := both_ends_agree ready agrees_grantingSession
  obtain ⟨value, encoded, given, written, grants⟩ := exists_tokenAnswer
    (PinProtocol.length_derive .two sharedCoordinate) (show (List.replicate 16 0 : Bytes).length = 16 by decide)
    (show grantedToken.length % 16 = 0 by decide) (by decide)
  have answered : (((Handshake.token "1234" none none).agreed .two grantingSession).link.sendCbor message).1 =
      .ok (answering grantedAnswer.toOption).payload := rfl
  rw [grantedAnswer, given] at answered
  simp only [answering, Except.toOption, Option.bind_some, written, Option.getD_some] at answered
  exact ⟨ready, agrees_grantingSession, gives grantedToken rfl (by decide) (grants _ _ answered)⟩

end SecurityKey.Pin
