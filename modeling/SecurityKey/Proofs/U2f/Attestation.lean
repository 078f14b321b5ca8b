import SecurityKey.Proofs.Crypto.KeyReading
import SecurityKey.Proofs.Response
import SecurityKey.U2f.Registration

/-!
# Registrations as attestations

A registration is turned into an attestation from which it can be told again: the authenticator data hold the
application, the key handle and the public key, and the statement holds the certificate and the signature.
-/

namespace SecurityKey

open Cbor Crypto

/-! ## Authenticator data -/

theorem ofNat_four (n : Nat) : ∃ c0 c1 c2 c3, Bytes.ofNat 4 n = [c0, c1, c2, c3] :=
  ⟨_, _, _, _, rfl⟩

/-- Authenticator data are read back from their bytes. -/
theorem AuthenticatorData.parse_toBytes {data : AuthenticatorData} (length : data.rpIdHash.length = 32) :
    parse data.toBytes = .ok data := by
  obtain ⟨c0, c1, c2, c3, counter⟩ := ofNat_four data.counter.toNat
  have number : Bytes.toNat [c0, c1, c2, c3] = data.counter.toNat := by
    rw [← counter]
    exact Bytes.toNat_ofNat_of_lt data.counter.toNat_lt
  unfold parse toBytes
  rw [Bytes.splitAt?_eq_some_iff.2 ⟨length, rfl⟩, counter]
  simp only [List.cons_append, List.nil_append, number, UInt32.ofNat_toNat]

namespace U2f.Registration

variable {registration other : Registration} {application application' : Bytes} {attestation : Attestation}

/-! ## The conversion -/

/-- What a registration becomes when its public key is written as `key`. -/
def attestationWith (registration : Registration) (application key : Bytes) : Attestation where
  format := "fido-u2f"
  authData := (registration.authenticatorData application key).toBytes
  statement := .map [
    (.text "sig", .bytes registration.signature),
    (.text "x5c", .array [.bytes registration.certificate])]
  enterprise := none
  largeBlobKey := none

theorem toAttestation_eq_ok_iff : toAttestation registration application = .ok attestation ↔
    registration.keyHandle.length ≤ 65535 ∧ ∃ key, CoseKey.ofPoint CoseKey.es256 registration.publicKey = .ok key ∧
      attestation = registration.attestationWith application key.write := by
  unfold toAttestation
  cases written : CoseKey.ofPoint CoseKey.es256 registration.publicKey with
  | error fault => simp [Except.mapError, bind, Except.bind]
  | ok key =>
      obtain ⟨canonical, -⟩ := CoseKey.read?_ofPoint written
      by_cases long : 65535 < registration.keyHandle.length
      · simp [Except.mapError, bind, Except.bind, long, throw, throwThe, MonadExceptOf.throw, Nat.not_le.2 long]
      · simp [Except.mapError, bind, Except.bind, pure, Except.pure, long, canonical, Nat.not_lt.1 long, eq_comm,
          attestationWith]

theorem exists_toAttestation_iff : (∃ attestation, toAttestation registration application = .ok attestation) ↔
    CoseKey.IsUncompressed registration.publicKey ∧ registration.keyHandle.length ≤ 65535 := by
  simp only [toAttestation_eq_ok_iff, ← CoseKey.exists_ofPoint_iff CoseKey.es256]
  constructor
  · rintro ⟨-, short, key, written, -⟩
    exact ⟨⟨key, written⟩, short⟩
  · rintro ⟨⟨key, written⟩, short⟩
    exact ⟨_, short, key, written, rfl⟩

/-! ## What an attestation tells -/

/-- The parts of an attestation that tell a registration: the authenticator data, the length before the key handle, and
the key with its written form. -/
structure Tells (registration : Registration) (application : Bytes) (attestation : Attestation)
    (data : AuthenticatorData) (length encoded : Bytes) (key : Value) : Prop where
  format : attestation.format = "fido-u2f"
  parsed : attestation.authenticatorData = .ok data
  rpIdHash : data.rpIdHash = application
  flags : data.flags.byte = 0x41
  counter : data.counter = 0
  rest : data.rest = List.replicate 16 0 ++ (length ++ (registration.keyHandle ++ encoded))
  width : length.length = 2
  counted : Bytes.toNat length = registration.keyHandle.length
  filled : readItem maxDepth encoded = some (key, [])
  canonical : Request.isCanonical encoded
  point : CoseKey.toPoint key = .ok registration.publicKey
  statement : attestation.statement = .map [
    (.text "sig", .bytes registration.signature),
    (.text "x5c", .array [.bytes registration.certificate])]

theorem exists_tells (length : application.length = 32)
    (h : toAttestation registration application = .ok attestation) :
    ∃ data length encoded key, Tells registration application attestation data length encoded key := by
  obtain ⟨short, key, written, rfl⟩ := toAttestation_eq_ok_iff.1 h
  obtain ⟨canonical, read⟩ := CoseKey.read?_ofPoint written
  refine ⟨registration.authenticatorData application key.write, Bytes.ofNat 2 registration.keyHandle.length, key.write,
    key, ?_⟩
  constructor
  · rfl
  · exact AuthenticatorData.parse_toBytes length
  · rfl
  · rfl
  · rfl
  · rfl
  · exact Bytes.length_ofNat 2 _
  · exact Bytes.toNat_ofNat_of_lt (Nat.lt_succ_of_le short)
  · have item := readItem_write (CoseKey.readable_ofPoint written (maxDepth - 1)) []
    rwa [List.append_nil] at item
  · simp [Request.isCanonical, read, canonical]
  · exact CoseKey.toPoint_ofPoint (by decide) written
  · rfl

/-- An attestation tells one registration at most. -/
theorem Tells.unique {data data' : AuthenticatorData} {length length' encoded encoded' : Bytes} {key key' : Value}
    (h : Tells registration application attestation data length encoded key)
    (h' : Tells other application' attestation data' length' encoded' key') :
    registration = other ∧ application = application' := by
  obtain rfl : data = data' := Except.ok.inj (h.parsed.symm.trans h'.parsed)
  have behind := List.append_cancel_left (h.rest.symm.trans h'.rest)
  obtain ⟨rfl, counted⟩ := List.append_inj behind (h.width.trans h'.width.symm)
  obtain ⟨handle, rfl⟩ := List.append_inj counted (h.counted.symm.trans h'.counted)
  obtain ⟨rfl, -⟩ : key = key' ∧ ([] : Bytes) = [] := by simpa using h.filled.symm.trans h'.filled
  have point : registration.publicKey = other.publicKey := Except.ok.inj (h.point.symm.trans h'.point)
  have statement := h.statement.symm.trans h'.statement
  simp only [Value.map.injEq, List.cons.injEq, Prod.mk.injEq, Value.bytes.injEq, Value.array.injEq, and_true, true_and]
    at statement
  obtain ⟨publicKey, keyHandle, certificate, signature⟩ := registration
  obtain ⟨publicKey', keyHandle', certificate', signature'⟩ := other
  cases point
  cases handle
  cases statement.1
  cases statement.2
  exact ⟨rfl, h.rpIdHash.symm.trans h'.rpIdHash⟩

/-- A registration is turned into an attestation exactly when its public key is an uncompressed point and two bytes hold
the length of its key handle. The attestation then tells the registration and the application: the authenticator data
are read with the application's hash, the flags 0x41 and the counter 0, and behind the zeros for the model stand the
counted key handle and the canonical form of the key, with nothing after it. No other registration is told by it. -/
theorem attestation_tells_registration (registration : Registration) (application : Bytes)
    (length : application.length = 32) :
    ((∃ attestation, toAttestation registration application = .ok attestation) ↔
      CoseKey.IsUncompressed registration.publicKey ∧ registration.keyHandle.length ≤ 65535) ∧
    ∀ attestation, toAttestation registration application = .ok attestation →
      (∃ data length encoded key, Tells registration application attestation data length encoded key) ∧
      ∀ other application' data length encoded key,
        Tells other application' attestation data length encoded key →
          registration = other ∧ application = application' := by
  refine ⟨exists_toAttestation_iff, fun attestation converted => ?_⟩
  have told := exists_tells length converted
  refine ⟨told, fun other application' data' length' encoded' key' h' => ?_⟩
  obtain ⟨data, length, encoded, key, h⟩ := told
  exact h.unique h'

/-- A registration whose key handle is longer than one byte can count. -/
def wide : Registration where
  publicKey := 4 :: List.replicate 64 0x11
  keyHandle := List.replicate 300 0xAB
  certificate := [0x30, 0x01, 0x00]
  signature := [0xEE]

theorem attestation_of_wide : (List.replicate 32 0xA5 : Bytes).length = 32 ∧ ∃ attestation,
    wide.toAttestation (List.replicate 32 0xA5) = .ok attestation ∧ ∃ data length encoded key,
      Tells wide (List.replicate 32 0xA5) attestation data length encoded key ∧ Bytes.toNat length = 300 := by
  have application : (List.replicate 32 0xA5 : Bytes).length = 32 := by decide
  obtain ⟨converts, tells⟩ := attestation_tells_registration wide _ application
  have handle : wide.keyHandle.length = 300 := List.length_replicate
  obtain ⟨attestation, converted⟩ := converts.2 ⟨⟨by decide, rfl⟩, by rw [handle]; decide⟩
  obtain ⟨⟨data, length, encoded, key, told⟩, -⟩ := tells attestation converted
  exact ⟨application, attestation, converted, data, length, encoded, key, told, told.counted.trans handle⟩

end U2f.Registration

end SecurityKey
