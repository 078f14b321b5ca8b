import SecurityKey.Pin.Protocol
import SecurityKey.Proofs.Crypto.Cbc
import SecurityKey.Proofs.Crypto.CoseKey

/-!
# Both ends of a protocol version

What one end encrypts under a secret that was derived, the other end decrypts, in both versions. Encryption and
decryption undo each other on all that they take, and refuse everything else: a secret of another length first, then a
text that is not a whole number of blocks.
-/

namespace SecurityKey.PinProtocol

open Crypto

variable (protocol : PinProtocol)

theorem length_hkdfBytes (salt secret info : Bytes) : (hkdfBytes salt secret info 32).length = 32 := by
  simp [hkdfBytes, hkdfBlocks]

/-- A derived secret fits the version. -/
theorem length_derive (z : Bytes) : (protocol.derive z).length = protocol.keyLength := by
  cases protocol with
  | one => exact length_sha256 z
  | two => simp [derive, keyLength, length_hkdfBytes]

/-! ## Encryption and decryption -/

/-- The length of the initialization vector that is sent in front. -/
def vectorLength : PinProtocol → Nat
  | one => 0
  | two => 16

/-- The vector that a chain starts with, given one for the text. -/
def vector : PinProtocol → (iv : Bytes) → Bytes
  | one, _ => List.replicate 16 0
  | two, iv => iv

/-- Why a secret and a text of `length` bytes are refused. -/
def refusal (protocol : PinProtocol) (secret : Bytes) (length : Nat) : Crypto.Failure :=
  if secret.length = protocol.keyLength then .dataLength length else .keyLength secret.length

variable {protocol} {secret iv plain encrypted : Bytes}

theorem check_eq (secret : Bytes) (length : Nat) : protocol.check secret length =
    if secret.length = protocol.keyLength ∧ length % 16 = 0 then .ok ()
    else .error (protocol.refusal secret length) := by
  unfold check refusal
  by_cases fits : secret.length = protocol.keyLength <;> by_cases whole : length % 16 = 0 <;> simp [fits, whole]

theorem eq_refusal_of_check {α : Type} {length : Nat} {result : Unit → α} {failure : Crypto.Failure}
    (h : (protocol.check secret length).map result = .error failure) : failure = protocol.refusal secret length := by
  rw [check_eq] at h
  split_ifs at h
  · cases h
  · exact (Except.error.inj h).symm

theorem length_take_vector (start : iv.length = 16) :
    (iv.take protocol.vectorLength).length = protocol.vectorLength := by
  cases protocol <;> simp [vectorLength, start]

theorem vector_take (start : iv.length = 16) :
    protocol.vector (iv.take protocol.vectorLength) = protocol.vector iv := by
  cases protocol with
  | one => rfl
  | two => exact List.take_of_length_le (Nat.le_of_eq start)

theorem encrypt_eq (start : iv.length = 16) : protocol.encrypt secret iv plain =
    (protocol.check secret plain.length).map fun _ => iv.take protocol.vectorLength ++
      Cbc.encrypt (protocol.cipherKey secret) (protocol.vector iv) plain := by
  unfold encrypt
  cases protocol with
  | one => cases check .one secret plain.length <;> rfl
  | two =>
      have whole : iv.take (vectorLength .two) = iv := List.take_of_length_le (Nat.le_of_eq start)
      rw [whole]
      cases check .two secret plain.length <;> rfl

theorem decrypt_eq (front : protocol.vectorLength ≤ encrypted.length) : protocol.decrypt secret encrypted =
    (protocol.check secret (encrypted.length - protocol.vectorLength)).map fun _ =>
      Cbc.decrypt (protocol.cipherKey secret) (protocol.vector (encrypted.take protocol.vectorLength))
        (encrypted.drop protocol.vectorLength) := by
  cases protocol with
  | one =>
      simp only [decrypt, vectorLength, Nat.sub_zero]
      cases check .one secret encrypted.length <;> rfl
  | two =>
      have front : ¬encrypted.length < 16 := Nat.not_lt.2 front
      simp only [decrypt, vectorLength, if_neg front]
      by_cases fits : secret.length = keyLength .two
      · rw [if_neg (Decidable.not_not.2 fits)]
        cases check .two secret (encrypted.length - 16) <;> rfl
      · rw [if_pos fits, check_eq, if_neg fun both => fits both.1, refusal, if_neg fits]
        rfl

theorem decrypt_of_short (short : encrypted.length < protocol.vectorLength) :
    protocol.decrypt secret encrypted = .error (protocol.refusal secret encrypted.length) := by
  cases protocol with
  | one => cases short
  | two =>
      have short : encrypted.length < 16 := short
      simp only [decrypt, refusal, if_pos short]
      by_cases fits : secret.length = keyLength .two <;> simp [fits]

theorem encrypt_eq_ok_iff (start : iv.length = 16) : protocol.encrypt secret iv plain = .ok encrypted ↔
    (secret.length = protocol.keyLength ∧ plain.length % 16 = 0) ∧
      iv.take protocol.vectorLength ++ Cbc.encrypt (protocol.cipherKey secret) (protocol.vector iv) plain =
        encrypted := by
  rw [encrypt_eq start, check_eq]
  split_ifs with taken <;> simp [Except.map, taken]

/-- A vector is a whole number of blocks itself. -/
theorem sub_vectorLength_mod {length : Nat} (front : protocol.vectorLength ≤ length) :
    (length - protocol.vectorLength) % 16 = length % 16 := by
  cases protocol with
  | one => rfl
  | two => exact (Nat.mod_eq_sub_mod front).symm

/-- A text can be decrypted when there is a vector in front, and a whole number of blocks behind it. -/
theorem decrypt_eq_ok_iff : protocol.decrypt secret encrypted = .ok plain ↔
    (secret.length = protocol.keyLength ∧ protocol.vectorLength ≤ encrypted.length ∧ encrypted.length % 16 = 0) ∧
      Cbc.decrypt (protocol.cipherKey secret) (protocol.vector (encrypted.take protocol.vectorLength))
        (encrypted.drop protocol.vectorLength) = plain := by
  rcases Nat.lt_or_ge encrypted.length protocol.vectorLength with short | front
  · rw [decrypt_of_short short]
    simp [Nat.not_le.2 short]
  · rw [decrypt_eq front, check_eq, sub_vectorLength_mod front]
    split_ifs with taken
    · simp [Except.map, taken, front]
    · simp only [Except.map, reduceCtorEq, false_iff]
      exact fun both => taken ⟨both.1.1, both.1.2.2⟩

/-- What is decrypted is what was encrypted. -/
theorem decrypt_of_encrypt (start : iv.length = 16) (h : protocol.encrypt secret iv plain = .ok encrypted) :
    protocol.decrypt secret encrypted = .ok plain := by
  obtain ⟨⟨fits, whole⟩, rfl⟩ := (encrypt_eq_ok_iff start).1 h
  have front : (iv.take protocol.vectorLength).length = protocol.vectorLength := length_take_vector start
  have same := Cbc.length_encrypt (protocol.cipherKey secret) (protocol.vector iv) whole
  refine decrypt_eq_ok_iff.2 ⟨⟨fits, ?_, ?_⟩, ?_⟩
  · rw [List.length_append, front]
    exact Nat.le_add_right ..
  · rw [List.length_append, front, same, ← sub_vectorLength_mod (Nat.le_add_right ..), Nat.add_sub_cancel_left, whole]
  · rw [List.take_left' front, List.drop_left' front, vector_take start, Cbc.decrypt_encrypt _ _ whole]

/-- What is encrypted again, from the vector in front of it, is what was decrypted. -/
theorem encrypt_of_decrypt (start : iv.length = 16)
    (same : iv.take protocol.vectorLength = encrypted.take protocol.vectorLength)
    (h : protocol.decrypt secret encrypted = .ok plain) : protocol.encrypt secret iv plain = .ok encrypted := by
  obtain ⟨⟨fits, front, whole⟩, rfl⟩ := decrypt_eq_ok_iff.1 h
  have rest : (encrypted.drop protocol.vectorLength).length % 16 = 0 := by
    rw [List.length_drop, sub_vectorLength_mod front, whole]
  refine (encrypt_eq_ok_iff start).2 ⟨⟨fits, ?_⟩, ?_⟩
  · rw [Cbc.length_decrypt _ _ rest, rest]
  · rw [← same, vector_take start, Cbc.encrypt_decrypt _ _ rest, same, List.take_append_drop]

theorem exists_encrypt (fits : secret.length = protocol.keyLength) (start : iv.length = 16)
    (whole : plain.length % 16 = 0) :
    ∃ encrypted, protocol.encrypt secret iv plain = .ok encrypted ∧ protocol.decrypt secret encrypted = .ok plain := by
  have made : protocol.encrypt secret iv plain = .ok _ := (encrypt_eq_ok_iff start).2 ⟨⟨fits, whole⟩, rfl⟩
  exact ⟨_, made, decrypt_of_encrypt start made⟩

theorem length_of_decrypt (h : protocol.decrypt secret encrypted = .ok plain) :
    encrypted.length = protocol.vectorLength + plain.length := by
  obtain ⟨⟨-, front, whole⟩, rfl⟩ := decrypt_eq_ok_iff.1 h
  rw [Cbc.length_decrypt _ _ (by rw [List.length_drop, sub_vectorLength_mod front, whole]), List.length_drop,
    Nat.add_sub_cancel' front]

/-- A ciphertext is longer than what it decrypts to by an initialization vector at most. -/
theorem length_le_of_decrypt (h : protocol.decrypt secret encrypted = .ok plain) :
    encrypted.length ≤ plain.length + 16 := by
  rw [length_of_decrypt h]
  cases protocol <;> simp only [vectorLength] <;> omega

/-- Encryption and decryption undo each other on all that they take. The secret has to have the length of the version's
secrets, and the text has to be a whole number of blocks, with room for a vector in front when it is encrypted. What
does not fit is refused, for its secret first. -/
theorem encryption_is_invertible (protocol : PinProtocol) (secret data : Bytes) {iv : Bytes} (start : iv.length = 16) :
    ((∃ encrypted, protocol.encrypt secret iv data = .ok encrypted) ↔
      secret.length = protocol.keyLength ∧ data.length % 16 = 0) ∧
    (∀ encrypted, protocol.encrypt secret iv data = .ok encrypted →
      encrypted.length = protocol.vectorLength + data.length ∧
      encrypted.take protocol.vectorLength = iv.take protocol.vectorLength ∧
      protocol.decrypt secret encrypted = .ok data) ∧
    (∀ failure, protocol.encrypt secret iv data = .error failure → failure = protocol.refusal secret data.length) ∧
    ((∃ plain, protocol.decrypt secret data = .ok plain) ↔
      secret.length = protocol.keyLength ∧ protocol.vectorLength ≤ data.length ∧ data.length % 16 = 0) ∧
    (∀ plain, protocol.decrypt secret data = .ok plain →
      data.length = protocol.vectorLength + plain.length ∧
      (iv.take protocol.vectorLength = data.take protocol.vectorLength →
        protocol.encrypt secret iv plain = .ok data)) ∧
    ∀ failure, protocol.decrypt secret data = .error failure →
      failure = protocol.refusal secret
        (if protocol.vectorLength ≤ data.length then data.length - protocol.vectorLength else data.length) := by
  refine ⟨?_, ?_, ?_, ?_, ?_, ?_⟩
  · constructor
    · intro ⟨encrypted, made⟩
      exact ((encrypt_eq_ok_iff start).1 made).1
    · intro taken
      exact ⟨_, (encrypt_eq_ok_iff start).2 ⟨taken, rfl⟩⟩
  · intro encrypted made
    have read := decrypt_of_encrypt start made
    obtain ⟨-, rfl⟩ := (encrypt_eq_ok_iff start).1 made
    exact ⟨length_of_decrypt read, List.take_left' (length_take_vector start), read⟩
  · intro failure failed
    rw [encrypt_eq start] at failed
    exact eq_refusal_of_check failed
  · constructor
    · intro ⟨plain, read⟩
      exact (decrypt_eq_ok_iff.1 read).1
    · intro taken
      exact ⟨_, decrypt_eq_ok_iff.2 ⟨taken, rfl⟩⟩
  · intro plain read
    exact ⟨length_of_decrypt read, fun same => encrypt_of_decrypt start same read⟩
  · intro failure failed
    split_ifs with front
    · rw [decrypt_eq front] at failed
      exact eq_refusal_of_check failed
    · rw [decrypt_of_short (Nat.not_le.1 front)] at failed
      exact (Except.error.inj failed).symm

theorem encryption_is_invertible_two_blocks :
    let secret : Bytes := List.replicate 64 0x07
    let iv : Bytes := List.replicate 16 0x24
    let plain : Bytes := List.replicate 32 0x33
    iv.length = 16 ∧ ∃ encrypted, PinProtocol.two.encrypt secret iv plain = .ok encrypted ∧ encrypted.length = 48 ∧
      encrypted.take 16 = iv ∧ PinProtocol.two.decrypt secret encrypted = .ok plain ∧
      PinProtocol.two.encrypt secret iv plain = .ok encrypted := by
  intro secret iv plain
  have start : iv.length = 16 := rfl
  obtain ⟨takes, inverts, -⟩ := encryption_is_invertible .two secret plain start
  obtain ⟨encrypted, made⟩ := takes.2 ⟨rfl, by simp [plain]⟩
  obtain ⟨length, front, read⟩ := inverts encrypted made
  obtain ⟨-, -, -, -, again, -⟩ := encryption_is_invertible .two secret encrypted start
  obtain ⟨-, back⟩ := again plain read
  exact ⟨start, encrypted, made, length, front, read, back front.symm⟩

theorem length_authenticate_le (protocol : PinProtocol) (key message : Bytes) :
    (protocol.authenticate key message).length ≤ 32 := by
  cases protocol <;> simp [authenticate]

/-- A key agreement succeeds with a key that is a point with which the platform's key agrees. -/
theorem agree_eq_ok_iff {key : P256.PrivateKey} {peer : Cbor.Value} {agreement : Agreement} :
    protocol.agree key peer = .ok agreement ↔ ∃ point z, CoseKey.toPoint peer = .ok point ∧
      key.agree? point = some z ∧ agreement.secret = protocol.derive z ∧
      CoseKey.ofPoint CoseKey.keyAgreement key.publicKey = .ok agreement.platformKey := by
  obtain ⟨written, same⟩ := CoseKey.exists_ofPoint key
  unfold agree
  rw [same]
  cases CoseKey.toPoint peer with
  | error fault => simp [Except.mapError, bind, Except.bind]
  | ok point =>
    cases met : key.agree? point with
    | none => simp [Except.mapError, bind, Except.bind, met]
    | some z =>
      rcases agreement with ⟨platformKey, secret⟩
      simp [Except.mapError, bind, Except.bind, pure, Except.pure, met, and_comm, eq_comm]

end SecurityKey.PinProtocol
