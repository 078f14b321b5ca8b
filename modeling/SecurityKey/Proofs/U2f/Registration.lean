import SecurityKey.Proofs.Crypto.Der
import SecurityKey.Proofs.Readers
import SecurityKey.U2f.Registration

/-!
# Layouts of registrations

What the answer to a U2F registration is, apart from how it is read. Reading takes exactly the layouts of registrations,
each of one registration only, and loses no byte: the parts of a registration put its layout together again, and no
layout can be cut short before its signature.
-/

namespace SecurityKey.U2f

open Crypto

/-! ## Certificates -/

/-- The bytes of a certificate: one element. -/
def IsCertificate (bytes : Bytes) : Prop :=
  ∃ contents, Der.Layout ⟨Der.sequence, contents⟩ bytes

namespace Registration

variable {data certificate rest bytes : Bytes} {registration other : Registration}

theorem splitCertificate?_eq_some_iff : splitCertificate? bytes = some (certificate, rest) ↔
    IsCertificate certificate ∧ bytes = certificate ++ rest := by
  have front (written after : Bytes) :
      (written ++ after).take ((written ++ after).length - after.length) = written := by
    rw [List.length_append, Nat.add_sub_cancel, List.take_left]
  simp only [splitCertificate?, Option.bind_eq_bind, Option.bind_eq_some_iff, Prod.exists]
  constructor
  · rintro ⟨contents, after, read, same⟩
    obtain ⟨written, layout, rfl⟩ := Der.tagged?_eq_some_iff.1 read
    rw [front] at same
    cases same
    exact ⟨⟨contents, layout⟩, rfl⟩
  · rintro ⟨⟨contents, layout⟩, rfl⟩
    refine ⟨contents, rest, Der.tagged?_append layout rest, ?_⟩
    rw [front]
    rfl

/-! ## Registrations -/

/-- The bytes of a registration: a reserved byte, the public key, the key handle behind its length, the certificate and
the signature. -/
inductive Layout (registration : Registration) : Bytes → Prop where
  | intro {length : UInt8} : registration.publicKey.length = 65 → registration.keyHandle.length = length.toNat →
      IsCertificate registration.certificate →
      Layout registration (0x05 :: (registration.publicKey ++ length ::
        (registration.keyHandle ++ (registration.certificate ++ registration.signature))))

/-- The parts of a registration put together. -/
def toBytes (registration : Registration) : Bytes :=
  0x05 :: (registration.publicKey ++ UInt8.ofNat registration.keyHandle.length ::
    (registration.keyHandle ++ (registration.certificate ++ registration.signature)))

theorem Layout.eq_toBytes (h : registration.Layout data) : data = registration.toBytes := by
  cases h with
  | intro _ counted _ => rw [toBytes, counted, UInt8.ofNat_toNat]

theorem parse_eq_ok_iff : parse data = .ok registration ↔ registration.Layout data := by
  constructor
  · intro h
    unfold parse at h
    split at h
    · cases h
    · split_ifs at h with other
      obtain rfl := Decidable.not_not.1 other
      split at h
      · rename_i publicKey length after cut
        obtain ⟨key, rfl⟩ := Bytes.splitAt?_eq_some_iff.1 cut
        obtain ⟨⟨keyHandle, behind⟩, handle, next⟩ := Result.ofOption_bind_eq_ok_iff.1 h
        obtain ⟨⟨certificate, signature⟩, last, same⟩ := Result.ofOption_bind_eq_ok_iff.1 next
        obtain ⟨counted, rfl⟩ := Bytes.splitAt?_eq_some_iff.1 handle
        obtain ⟨isCertificate, rfl⟩ := splitCertificate?_eq_some_iff.1 last
        cases same
        have layout : Layout ⟨publicKey, keyHandle, certificate, signature⟩ _ := .intro key counted isCertificate
        exact layout
      · cases h
  · rintro ⟨key, counted, isCertificate⟩
    simp only [parse, ne_eq, not_true_eq_false, if_false, Bytes.splitAt?_eq_some_iff.2 ⟨key, rfl⟩]
    refine Result.ofOption_bind_eq_ok_iff.2 ⟨_, Bytes.splitAt?_eq_some_iff.2 ⟨counted, rfl⟩, ?_⟩
    exact Result.ofOption_bind_eq_ok_iff.2 ⟨_, splitCertificate?_eq_some_iff.2 ⟨isCertificate, rfl⟩, rfl⟩

/-- Bytes after a registration are taken as a part of its signature. -/
theorem Layout.append (h : registration.Layout data) (more : Bytes) :
    Layout { registration with signature := registration.signature ++ more } (data ++ more) := by
  obtain ⟨key, counted, isCertificate⟩ := h
  have layout : Layout { registration with signature := registration.signature ++ more } _ :=
    .intro key counted isCertificate
  simpa using layout

instance : Result.Reading (parse data) := by
  unfold parse
  split
  · infer_instance
  · split
    · infer_instance
    · split <;> infer_instance

/-- Two layouts of one byte string are of the same registration. -/
theorem Layout.unique (h : registration.Layout data) (h' : other.Layout data) : registration = other := by
  have parsed := parse_eq_ok_iff.2 h
  rw [parse_eq_ok_iff.2 h'] at parsed
  exact (Except.ok.inj parsed).symm

/-- A layout cannot be cut short before its signature. -/
theorem Layout.parse_take (h : registration.Layout data) {length : Nat}
    (short : length + registration.signature.length < data.length) :
    ∃ malformation, parse (data.take length) = .error (.badResponse malformation) := by
  have reading : (parse (data.take length)).IsReading := Result.Reading.isReading
  cases parsed : parse (data.take length) with
  | error failure =>
      obtain ⟨malformation, rfl⟩ := reading failure parsed
      exact ⟨malformation, rfl⟩
  | ok shorter =>
      -- The rest put back would make a second registration, with all of the rest in its signature.
      have layout := (parse_eq_ok_iff.1 parsed).append (data.drop length)
      rw [List.take_append_drop] at layout
      have signature := congrArg (fun registration => registration.signature.length) (h.unique layout)
      simp only [List.length_append, List.length_drop] at signature
      omega

/-- A byte string is read as a registration exactly when it has the layout of one, which it has of one only, and else it
is malformed. The parts put together are the byte string again; the certificate is one element from its first to its
last byte; and what is cut off in front of the signature is malformed. -/
theorem parse_takes_layouts_only (data : Bytes) :
    (∀ registration, parse data = .ok registration ↔ registration.Layout data) ∧
    (∀ registration other : Registration, registration.Layout data → other.Layout data → registration = other) ∧
    ((∃ registration, parse data = .ok registration) ∨
      ∃ malformation, parse data = .error (.badResponse malformation)) ∧
    ∀ registration, parse data = .ok registration →
      registration.toBytes = data ∧
      splitCertificate? registration.certificate = some (registration.certificate, []) ∧
      ∀ length, length + registration.signature.length < data.length →
        ∃ malformation, parse (data.take length) = .error (.badResponse malformation) := by
  refine ⟨fun _ => parse_eq_ok_iff, fun _ _ => Layout.unique, ?_, ?_⟩
  · have reading : (parse data).IsReading := Result.Reading.isReading
    cases parsed : parse data with
    | ok registration => exact .inl ⟨registration, rfl⟩
    | error failure =>
        obtain ⟨malformation, rfl⟩ := reading failure parsed
        exact .inr ⟨malformation, rfl⟩
  · intro registration parsed
    have layout := parse_eq_ok_iff.1 parsed
    refine ⟨layout.eq_toBytes.symm, ?_, fun length short => layout.parse_take short⟩
    obtain ⟨-, -, isCertificate⟩ := layout
    exact splitCertificate?_eq_some_iff.2 ⟨isCertificate, (List.append_nil _).symm⟩

/-- A registration whose certificate has a longer length than it needs. -/
def roomy : Registration where
  publicKey := List.replicate 65 0x04
  keyHandle := [0xAA, 0xBB]
  certificate := [0x30, 0x83, 0x00, 0x00, 0x02, 0x05, 0x00]
  signature := [0xEE]

theorem parse_roomy : parse roomy.toBytes = .ok roomy ∧ 75 + roomy.signature.length < roomy.toBytes.length ∧
    roomy.Layout roomy.toBytes ∧ splitCertificate? roomy.certificate = some (roomy.certificate, []) ∧
    ∃ malformation, parse (roomy.toBytes.take 75) = .error (.badResponse malformation) := by
  have parsed : parse roomy.toBytes = .ok roomy := rfl
  have short : 75 + roomy.signature.length < roomy.toBytes.length := by decide
  obtain ⟨takes, -, -, whole⟩ := parse_takes_layouts_only roomy.toBytes
  obtain ⟨-, certificate, cut⟩ := whole roomy parsed
  exact ⟨parsed, short, (takes roomy).1 parsed, certificate, cut 75 short⟩

end Registration

end SecurityKey.U2f
