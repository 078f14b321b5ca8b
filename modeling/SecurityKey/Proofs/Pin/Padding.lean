import Mathlib.Data.List.DropRight
import SecurityKey.Proofs.Bytes
import SecurityKey.Proofs.Pin.Agreement

/-!
# Zeros after a PIN

An authenticator cuts the zeros after a new PIN and keeps a proof of what is left, with which it compares every later
proof. A PIN may itself end in zero characters, and these are cut with the zeros after them.
-/

namespace SecurityKey.Pin

open Crypto

variable {bytes other : Bytes} {pin : String}

/-! ## What the authenticator keeps -/

/-- A text without the zeros at its end. -/
def cutZeros (bytes : Bytes) : Bytes :=
  bytes.rdropWhile (· == 0)

/-- The proof that belongs to a new PIN with zeros after it. -/
def keptProof (padded : Bytes) : Bytes :=
  (sha256 (cutZeros padded)).take 16

/-- The proof that the authenticator keeps when a request sets the PIN. -/
def SealedRequest.keptProof? (request : SealedRequest) (secret : Bytes) : Option (Except Crypto.Failure Bytes) :=
  (request.newPin? secret).map fun padded => padded.map keptProof

/-- A PIN without the zero characters at its end. -/
def stem (pin : String) : String :=
  .ofList (pin.toList.rdropWhile (· == '\x00'))

/-- A PIN ends in a zero character. -/
def EndsInZero (pin : String) : Prop :=
  pin.toList.getLast? = some '\x00'

/-! ## Cutting zeros -/

theorem cutZeros_append_zeros (bytes : Bytes) (n : Nat) : cutZeros (bytes ++ List.replicate n 0) = cutZeros bytes := by
  induction n with
  | zero => simp
  | succ n ih =>
    rw [List.replicate_succ', ← List.append_assoc]
    exact (List.rdropWhile_concat_pos _ _ 0 rfl).trans ih

theorem cutZeros_append_replicate (bytes : Bytes) :
    cutZeros bytes ++ List.replicate (bytes.length - (cutZeros bytes).length) 0 = bytes := by
  have parts : cutZeros bytes ++ bytes.rtakeWhile (· == 0) = bytes := List.rdropWhile_append_rtakeWhile
  have size := congrArg List.length parts
  rw [List.length_append] at size
  have zeros : bytes.rtakeWhile (· == 0) = List.replicate (bytes.length - (cutZeros bytes).length) 0 :=
    List.eq_replicate_iff.2 ⟨by omega, fun b mem => by simpa using List.mem_rtakeWhile_imp mem⟩
  rw [← zeros, parts]

theorem eq_of_cutZeros_eq (size : bytes.length = other.length) (same : cutZeros bytes = cutZeros other) :
    bytes = other := by
  rw [← cutZeros_append_replicate bytes, ← cutZeros_append_replicate other, size, same]

theorem exists_utf8EncodeChar {c : Char} (h : c ≠ '\x00') :
    ∃ front last, String.utf8EncodeChar c = front ++ [last] ∧ last ≠ 0 := by
  have positive : c.val.toNat ≠ 0 := fun zero => h (Char.ext (UInt32.toNat_inj.1 zero))
  have last_ne {n : Nat} (low : 0 < n) (high : n < 256) : UInt8.ofNat n ≠ 0 := by
    rw [Ne, ← UInt8.toNat_inj, UInt8.toNat_ofNat_of_lt' high]
    exact low.ne'
  unfold String.utf8EncodeChar
  simp only
  split_ifs
  · exact ⟨[], _, rfl, last_ne (by omega) (by omega)⟩
  · exact ⟨[_], _, rfl, last_ne (by omega) (by omega)⟩
  · exact ⟨[_, _], _, rfl, last_ne (by omega) (by omega)⟩
  · exact ⟨[_, _, _], _, rfl, last_ne (by omega) (by omega)⟩

theorem ofText_ofList (chars : List Char) : Bytes.ofText (.ofList chars) = chars.flatMap String.utf8EncodeChar := by
  simp [Bytes.ofText, List.utf8Encode]

theorem cutZeros_flatMap (chars : List Char) : cutZeros (chars.flatMap String.utf8EncodeChar) =
    (chars.rdropWhile (· == '\x00')).flatMap String.utf8EncodeChar := by
  induction chars using List.reverseRecOn with
  | nil => rfl
  | append_singleton chars c ih =>
    rw [List.flatMap_append, List.flatMap_singleton]
    by_cases zero : c = '\x00'
    · subst zero
      rw [List.rdropWhile_concat_pos _ _ _ rfl, ← ih]
      exact List.rdropWhile_concat_pos _ _ _ rfl
    · obtain ⟨front, last, encoded, nonzero⟩ := exists_utf8EncodeChar zero
      rw [List.rdropWhile_concat_neg _ _ _ (by simpa using zero), List.flatMap_append, List.flatMap_singleton, encoded,
        ← List.append_assoc]
      exact List.rdropWhile_concat_neg _ _ _ (by simpa using nonzero)

theorem cutZeros_ofText (pin : String) : cutZeros (Bytes.ofText pin) = Bytes.ofText (stem pin) := by
  rw [stem, ofText_ofList, ← cutZeros_flatMap, ← ofText_ofList, String.ofList_toList]

theorem cutZeros_padded (pin : String) : cutZeros (padded pin) = Bytes.ofText (stem pin) := by
  rw [padded, cutZeros_append_zeros, cutZeros_ofText]

theorem stem_eq_self_iff : stem pin = pin ↔ ¬EndsInZero pin := by
  have chars : stem pin = pin ↔ pin.toList.rdropWhile (· == '\x00') = pin.toList := by
    rw [stem, ← String.toList_inj, String.toList_ofList]
  rw [chars, List.rdropWhile_eq_self_iff, EndsInZero]
  constructor
  · intro last ends
    have nonempty : pin.toList ≠ [] := by rintro empty; simp [empty] at ends
    exact last nonempty (beq_iff_eq.2 ((List.getLast_eq_iff_getLast?_eq_some nonempty).2 ends))
  · intro ends nonempty zero
    exact ends ((List.getLast_eq_iff_getLast?_eq_some nonempty).1 (beq_iff_eq.1 zero))

theorem padded_eq_iff {pin other : String} (acceptable : IsAcceptable pin) (acceptable' : IsAcceptable other) :
    padded other = padded pin ↔ stem other = stem pin := by
  constructor
  · intro same
    apply Bytes.ofText_inj
    rw [← cutZeros_padded, same, cutZeros_padded]
  · intro same
    refine eq_of_cutZeros_eq ?_ ?_
    · rw [length_padded acceptable, length_padded acceptable']
    · rw [cutZeros_padded, cutZeros_padded, same]

theorem keptProof_padded (plain : ¬EndsInZero pin) : keptProof (padded pin) = proofOf pin := by
  rw [keptProof, cutZeros_padded, stem_eq_self_iff.2 plain, proofOf]

/-! ## A PIN that was set -/

/-- An operation that is not refused reaches the authenticator, which finds the given request. -/
def Handshake.Reaches (handshake : Handshake) (protocol : PinProtocol) (session : Session)
    (authenticator : P256.PrivateKey) (z : Bytes) (request : SealedRequest) : Prop :=
  ∃ message, handshake.Understood protocol authenticator (protocol.derive z) message request ∧
    (handshake.agreed protocol session).link.Carried [message] ((handshake.perform protocol).on session).2.link

theorem Handshake.exists_reaches {handshake : Handshake} {protocol : PinProtocol} {session : Session}
    {authenticator : P256.PrivateKey} {z : Bytes} (ready : handshake.Ready session.info)
    (agrees : Agrees protocol session authenticator z) :
    ∃ request, handshake.Reaches protocol session authenticator z request := by
  obtain ⟨key, written⟩ := CoseKey.exists_ofPoint (platformKey session)
  obtain ⟨parameters, sound, sealed, runs⟩ := handshake.exists_runs ready agrees written
  exact ⟨_, _, sealed.understood sound agrees, runs.carried⟩

/-- The zeros after a PIN are told from the PIN exactly when it does not itself end in a zero character. The PINs with
the same padded form are those with the same stem, and for a PIN that is its own stem the proof that the authenticator
keeps when an operation sets it is the one that it finds when another operation proves it. -/
theorem set_pin_is_provable (acceptable : IsAcceptable pin) :
    ∃ bytes padded, prepare pin = .ok bytes ∧ preparePadded pin = .ok padded ∧
      (cutZeros padded = bytes ↔ ¬EndsInZero pin) ∧
      (∀ other, IsAcceptable other → (preparePadded other = .ok padded ↔ stem other = stem pin)) ∧
      (¬EndsInZero pin → Pin.hash pin = .ok (keptProof padded)) ∧
      ∀ (setting proving : Handshake) (protocol protocol' : PinProtocol) (session session' : Session)
        (authenticator authenticator' : P256.PrivateKey) (z z' : Bytes),
        setting.sets = some pin → setting.Ready session.info → Agrees protocol session authenticator z →
        proving.proves = some pin → proving.Ready session'.info → Agrees protocol' session' authenticator' z' →
        ∃ request request', setting.Reaches protocol session authenticator z request ∧
          proving.Reaches protocol' session' authenticator' z' request' ∧
          request.keptProof? (protocol.derive z) = some (.ok (keptProof padded)) ∧
          (¬EndsInZero pin →
            request'.pinHash? (protocol'.derive z') = some (.ok (keptProof padded))) := by
  obtain ⟨bytes, accepted⟩ := acceptable
  have acceptable : IsAcceptable pin := ⟨bytes, accepted⟩
  obtain ⟨-, -, same⟩ := prepare_eq_ok_iff.1 accepted
  refine ⟨bytes, padded pin, accepted, preparePadded_eq acceptable, ?_, ?_, ?_, ?_⟩
  · rw [same, cutZeros_padded, ← stem_eq_self_iff]
    exact ⟨Bytes.ofText_inj, congrArg _⟩
  · intro other acceptable'
    rw [preparePadded_eq acceptable', Except.ok.injEq, padded_eq_iff acceptable acceptable']
  · intro plain
    rw [hash_eq acceptable, keptProof_padded plain]
  · intro setting proving protocol protocol' session session' authenticator authenticator' z z' sets ready agrees proves
      ready' agrees'
    obtain ⟨request, reaches⟩ := Handshake.exists_reaches ready agrees
    obtain ⟨request', reaches'⟩ := Handshake.exists_reaches ready' agrees'
    refine ⟨request, request', reaches, reaches', ?_, fun plain => ?_⟩
    · obtain ⟨message, understood, -⟩ := reaches
      rw [SealedRequest.keptProof?, understood.newPin, sets]
      rfl
    · obtain ⟨message, understood, -⟩ := reaches'
      rw [understood.pinHash, proves, keptProof_padded plain]
      rfl

/-- The PIN "1234" is set with the authenticator of `grantingSession`, and proved there. -/
theorem set_pin_is_provable_1234 : IsAcceptable "1234" ∧ ∃ padded request request',
    preparePadded "1234" = .ok padded ∧ Pin.hash "1234" = .ok (keptProof padded) ∧
    (Handshake.setFirst "1234").Reaches .two grantingSession granter sharedCoordinate request ∧
    (Handshake.token "1234" none none).Reaches .two grantingSession granter sharedCoordinate request' ∧
    request.keptProof? (PinProtocol.derive .two sharedCoordinate) = some (.ok (keptProof padded)) ∧
    request'.pinHash? (PinProtocol.derive .two sharedCoordinate) = some (.ok (keptProof padded)) := by
  have acceptable : IsAcceptable "1234" := ⟨_, prepare_eq_ok_iff.2 ⟨by decide, by decide, rfl⟩⟩
  have plain : ¬EndsInZero "1234" := by unfold EndsInZero; decide
  obtain ⟨bytes, padded, -, filled, -, -, hashed, run⟩ := set_pin_is_provable acceptable
  obtain ⟨request, request', reaches, reaches', kept, proof⟩ :=
    run (.setFirst "1234") (.token "1234" none none) .two .two grantingSession grantingSession granter granter
      sharedCoordinate sharedCoordinate rfl ⟨rfl, acceptable⟩ agrees_grantingSession rfl
      ⟨rfl, acceptable, by simp, by simp⟩ agrees_grantingSession
  exact ⟨acceptable, padded, request, request', filled, hashed plain, reaches, reaches', kept, proof plain⟩

/-- A PIN with a zero character at its end is accepted, but its padded form is that of the PIN before this character,
and the proof that belongs to the padded form is not the proof of the PIN. -/
theorem zero_at_end_is_cut : prepare "1234\x00" = .ok [49, 50, 51, 52, 0] ∧
    preparePadded "1234\x00" = preparePadded "1234" ∧
    ∃ padded, preparePadded "1234\x00" = .ok padded ∧ cutZeros padded = [49, 50, 51, 52] ∧
      Pin.hash "1234\x00" ≠ .ok (keptProof padded) := by
  have accepted : prepare "1234\x00" = .ok [49, 50, 51, 52, 0] :=
    prepare_eq_ok_iff.2 ⟨by decide, by decide, by decide⟩
  have accepted' : prepare "1234" = .ok [49, 50, 51, 52] := prepare_eq_ok_iff.2 ⟨by decide, by decide, by decide⟩
  have same : padded "1234\x00" = padded "1234" := by decide
  refine ⟨accepted, ?_, padded "1234\x00", preparePadded_eq ⟨_, accepted⟩, by decide, ?_⟩
  · rw [preparePadded_eq ⟨_, accepted⟩, preparePadded_eq ⟨_, accepted'⟩, same]
  · rw [hash_eq ⟨_, accepted⟩, Ne, Except.ok.injEq]
    decide +kernel

end SecurityKey.Pin
