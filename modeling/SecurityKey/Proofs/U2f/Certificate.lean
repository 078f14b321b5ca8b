import SecurityKey.Proofs.Crypto.Der
import SecurityKey.U2f.Registration

/-!
# Layouts of certificates

What a certificate is, as far as a public key is looked for in it, apart from how that is done. A key is found exactly
in such certificates, and it is the one behind the subject: nothing else in the certificate has a say in it.
-/

namespace SecurityKey.U2f

open Crypto Der

variable {bytes rest key : Bytes}

/-! ## Walking over elements -/

theorem skipElements_eq_some_iff {count : Nat} : skipElements count bytes = some rest ↔
    ∃ elements written, elements.length = count ∧ Layouts elements written ∧ bytes = written ++ rest := by
  induction count generalizing bytes with
  | zero =>
      constructor
      · intro h
        cases h
        exact ⟨[], [], rfl, .nil, rfl⟩
      · rintro ⟨elements, written, none, layouts, rfl⟩
        cases List.eq_nil_of_length_eq_zero none
        cases layouts
        rfl
  | succ count ih =>
      simp only [skipElements, Option.bind_eq_bind, Option.bind_eq_some_iff, Prod.exists, element?_eq_some_iff, ih]
      constructor
      · rintro ⟨element, after, ⟨written, layout, rfl⟩, elements, others, counted, layouts, rfl⟩
        exact ⟨element :: elements, written ++ others, by simp [counted], .cons layout layouts, by simp⟩
      · rintro ⟨elements, written, counted, layouts, rfl⟩
        cases layouts with
        | nil => cases counted
        | @cons element elements written others layout layouts =>
            exact ⟨element, others ++ rest, ⟨written, layout, by simp⟩, elements, others, by simpa using counted,
              layouts, rfl⟩

/-- The version as an element of its own, if there is one. -/
def versionElements (version : Option Bytes) : List Element :=
  version.toList.map (Element.mk explicitVersion)

theorem skipVersion_eq_some_iff : skipVersion bytes = some rest ↔
    ∃ version written, Layouts (versionElements version) written ∧ bytes = written ++ rest ∧
      (version = none → ∃ first after, element? rest = some (first, after) ∧ first.tag ≠ explicitVersion) := by
  simp only [skipVersion, Option.bind_eq_bind, Option.bind_eq_some_iff, Prod.exists]
  constructor
  · rintro ⟨⟨tag, contents⟩, after, read, same⟩
    by_cases version : tag = explicitVersion
    · rw [if_pos version] at same
      cases same
      obtain ⟨written, layout, rfl⟩ := element?_eq_some_iff.1 read
      exact ⟨some contents, written ++ [], .cons (version ▸ layout) .nil, by rw [List.append_nil], nofun⟩
    · rw [if_neg version] at same
      cases same
      exact ⟨none, [], .nil, rfl, fun _ => ⟨_, _, read, version⟩⟩
  · rintro ⟨version, written, layouts, rfl, other⟩
    cases version with
    | none =>
        cases layouts
        obtain ⟨first, after, read, different⟩ := other rfl
        exact ⟨first, after, read, by rw [if_neg different]; rfl⟩
    | some contents =>
        cases layouts with
        | @cons _ _ written _ layout none =>
            cases none
            rw [List.append_nil]
            exact ⟨_, rest, element?_eq_some_iff.2 ⟨written, layout, rfl⟩, by rw [if_pos rfl]; rfl⟩

/-! ## Certificates -/

/-- A certificate, as far as its key is looked for: what is in front of the key, and what follows it in each of the
elements around it. -/
structure Certificate where
  version : Option Bytes
  serial : Element
  algorithm : Element
  issuer : Element
  validity : Element
  subject : Element
  keyAlgorithm : Element
  key : Bytes
  afterKey : Bytes
  extensions : Bytes
  afterSigned : Bytes
  after : Bytes

namespace Certificate

variable {certificate : Certificate}

/-- The five elements between the version and the key. -/
def fields (certificate : Certificate) : List Element :=
  [certificate.serial, certificate.algorithm, certificate.issuer, certificate.validity, certificate.subject]

/-- A certificate without a version has a serial number that is not taken for one. -/
def Fits (certificate : Certificate) : Prop :=
  certificate.version = none → certificate.serial.tag ≠ explicitVersion

instance : Decidable certificate.Fits :=
  inferInstanceAs (Decidable (_ → _))

/-- The bytes of a certificate, the lengths in any of their forms. -/
inductive Layout (certificate : Certificate) : Bytes → Prop where
  | intro {version fields algorithm bits keyInfo signed outer : Bytes} :
      certificate.Fits →
      Layouts (versionElements certificate.version) version →
      Layouts certificate.fields fields →
      Der.Layout certificate.keyAlgorithm algorithm →
      Der.Layout ⟨bitString, 0 :: certificate.key⟩ bits →
      Der.Layout ⟨sequence, algorithm ++ (bits ++ certificate.afterKey)⟩ keyInfo →
      Der.Layout ⟨sequence, version ++ (fields ++ (keyInfo ++ certificate.extensions))⟩ signed →
      Der.Layout ⟨sequence, signed ++ certificate.afterSigned⟩ outer →
      Layout certificate (outer ++ certificate.after)

/-! ## Reading -/

theorem Layout.certificateKey? (h : certificate.Layout bytes) : certificateKey? bytes = some certificate.key := by
  obtain ⟨fits, version, fields, algorithm, bits, keyInfo, signed, outer⟩ := h
  have behindVersion (rest : Bytes) := skipVersion_eq_some_iff.2 ⟨_, _, version, rfl, fun none =>
    have ⟨others, read⟩ := fields.element?_append rest
    ⟨_, others, read, fits none⟩⟩
  have behindFields (rest : Bytes) : skipElements 5 _ = some rest :=
    skipElements_eq_some_iff.2 ⟨_, _, rfl, fields, rfl⟩
  have behindAlgorithm (rest : Bytes) : skipElements 1 _ = some rest :=
    skipElements_eq_some_iff.2 ⟨_, _, rfl, .cons algorithm .nil, rfl⟩
  rw [List.append_nil] at behindAlgorithm
  simp only [U2f.certificateKey?, Option.bind_eq_bind, Option.bind_some, tagged?_append outer, tagged?_append signed,
    behindVersion, behindFields, tagged?_append keyInfo, behindAlgorithm, tagged?_append bits]
  rfl

theorem exists_layout (h : U2f.certificateKey? bytes = some key) :
    ∃ certificate : Certificate, certificate.Layout bytes ∧ certificate.key = key := by
  simp only [U2f.certificateKey?, Option.bind_eq_bind, Option.bind_eq_some_iff, Prod.exists] at h
  obtain ⟨contents, after, atOuter, tbs, afterSigned, atSigned, unversioned, atVersion, behind, atFields, info,
    extensions, atKeyInfo, behindAlgorithm, atAlgorithm, found, afterKey, atBits, same⟩ := h
  split at same
  case h_2 => cases same
  cases same
  -- From the outside to the key: what each step passes is the layout of a field, and what it leaves goes on.
  obtain ⟨_, outer, rfl⟩ := tagged?_eq_some_iff.1 atOuter
  obtain ⟨_, signed, rfl⟩ := tagged?_eq_some_iff.1 atSigned
  obtain ⟨version, _, versions, rfl, other⟩ := skipVersion_eq_some_iff.1 atVersion
  obtain ⟨elements, _, five, fields, rfl⟩ := skipElements_eq_some_iff.1 atFields
  obtain ⟨_, keyInfo, rfl⟩ := tagged?_eq_some_iff.1 atKeyInfo
  obtain ⟨algorithms, _, one, algorithm, rfl⟩ := skipElements_eq_some_iff.1 atAlgorithm
  obtain ⟨_, bits, rfl⟩ := tagged?_eq_some_iff.1 atBits
  match elements, five, algorithms, one with
  | [serial, signature, issuer, validity, subject], rfl, [keyAlgorithm], rfl =>
    have fits (none : version = none) : serial.tag ≠ explicitVersion := by
      obtain ⟨first, rest, read, different⟩ := other none
      obtain ⟨rest', read'⟩ := fields.element?_append _
      cases read.symm.trans read'
      exact different
    cases algorithm with
    | cons algorithm nothing =>
        cases nothing
        rw [List.append_nil] at keyInfo
        exact ⟨⟨version, serial, signature, issuer, validity, subject, keyAlgorithm, key, afterKey, extensions,
          afterSigned, after⟩, .intro fits versions fields algorithm bits keyInfo signed outer, rfl⟩

theorem certificateKey?_eq_some_iff : U2f.certificateKey? bytes = some key ↔
    ∃ certificate : Certificate, certificate.Layout bytes ∧ certificate.key = key := by
  constructor
  · exact exists_layout
  · rintro ⟨certificate, layout, rfl⟩
    exact layout.certificateKey?

theorem Layout.key_infix (h : certificate.Layout bytes) : certificate.key <:+: bytes := by
  obtain ⟨-, -, -, -, bits, keyInfo, signed, outer⟩ := h
  have inBits := bits.infix_of_contents (List.suffix_cons ..).isInfix
  have inKeyInfo := keyInfo.infix_of_contents (inBits.trans (List.infix_append' ..))
  have inSigned := signed.infix_of_contents
    ((inKeyInfo.trans (List.infix_append' ..)).trans (List.suffix_append ..).isInfix)
  have inOuter := outer.infix_of_contents (inSigned.trans (List.prefix_append ..).isInfix)
  exact inOuter.trans (List.prefix_append ..).isInfix

/-! ## Writing -/

/-- The element around the key, with the lengths in their shortest forms. -/
def keyInfo (certificate : Certificate) : Element where
  tag := sequence
  contents := certificate.keyAlgorithm.write ++
    (Element.write ⟨bitString, 0 :: certificate.key⟩ ++ certificate.afterKey)

/-- The element that the issuer signs. -/
def signed (certificate : Certificate) : Element where
  tag := sequence
  contents := (versionElements certificate.version).flatMap Element.write ++
    (certificate.fields.flatMap Element.write ++ (certificate.keyInfo.write ++ certificate.extensions))

/-- The certificate as an element. -/
def outer (certificate : Certificate) : Element where
  tag := sequence
  contents := certificate.signed.write ++ certificate.afterSigned

/-- The bytes of a certificate, with the lengths in their shortest forms. -/
def write (certificate : Certificate) : Bytes :=
  certificate.outer.write ++ certificate.after

theorem layout_write (fits : certificate.Fits) (short : certificate.outer.contents.length < 2 ^ 32) :
    certificate.Layout certificate.write := by
  have outerParts : certificate.outer.contents.length =
      certificate.signed.write.length + certificate.afterSigned.length := List.length_append
  have signedParts : certificate.signed.contents.length =
      ((versionElements certificate.version).flatMap Element.write).length +
        ((certificate.fields.flatMap Element.write).length +
          (certificate.keyInfo.write.length + certificate.extensions.length)) := by
    simp only [signed, List.length_append]
  have keyInfoParts : certificate.keyInfo.contents.length = certificate.keyAlgorithm.write.length +
      ((Element.write ⟨bitString, 0 :: certificate.key⟩).length + certificate.afterKey.length) := by
    simp only [keyInfo, List.length_append]
  have inSigned := length_contents_le_write certificate.signed
  have inKeyInfo := length_contents_le_write certificate.keyInfo
  have inAlgorithm := length_contents_le_write certificate.keyAlgorithm
  have inBits := length_contents_le_write ⟨bitString, 0 :: certificate.key⟩
  have signedLayout : Der.Layout certificate.signed _ := Der.layout_write (by omega)
  have keyInfoLayout : Der.Layout certificate.keyInfo _ := Der.layout_write (by omega)
  exact .intro fits (layouts_write (by omega)) (layouts_write (by omega)) (Der.layout_write (by omega))
    (Der.layout_write (by omega)) keyInfoLayout signedLayout (Der.layout_write short)

/-! ## The key -/

/-- The key of a certificate is the one behind the subject, whatever else is in the certificate, whether it has a
version or not, and whatever follows in the elements around the key. There is a key in the layouts of certificates only,
and it is a part of the bytes. A registration is checked with it and depends on its certificate in nothing else. -/
theorem key_is_behind_subject (bytes : Bytes) :
    (∀ certificate : Certificate, certificate.Fits → certificate.outer.contents.length < 2 ^ 32 →
      U2f.certificateKey? certificate.write = some certificate.key) ∧
    (∀ key, U2f.certificateKey? bytes = some key ↔
      ∃ certificate : Certificate, certificate.Layout bytes ∧ certificate.key = key) ∧
    (∀ key, U2f.certificateKey? bytes = some key → key <:+: bytes) ∧
    ∀ (registration : Registration) (certificate : Certificate) (application client : Bytes),
      registration.certificate = bytes → certificate.Layout bytes →
        registration.verify application client =
          verifySignature certificate.key (registration.signedData application client) registration.signature := by
  refine ⟨fun certificate fits short => (layout_write fits short).certificateKey?,
    fun key => certificateKey?_eq_some_iff, ?_, ?_⟩
  · intro key found
    obtain ⟨certificate, layout, rfl⟩ := exists_layout found
    exact layout.key_infix
  · rintro registration certificate application client rfl layout
    rw [Registration.verify, layout.certificateKey?]
    rfl

/-- A certificate without a version, with a subject too long for a length of one byte. -/
def unversioned : Certificate where
  version := none
  serial := ⟨0x02, [0x07]⟩
  algorithm := ⟨0x30, [0x05, 0x00]⟩
  issuer := ⟨0x30, []⟩
  validity := ⟨0x30, []⟩
  subject := ⟨0x30, List.replicate 200 0x04⟩
  keyAlgorithm := ⟨0x30, [0x05, 0x00]⟩
  key := [0x04, 0xAA, 0xBB]
  afterKey := [0x05]
  extensions := [0xA3, 0x00]
  afterSigned := [0x03, 0x01, 0x00]
  after := [0xEE]

theorem key_of_unversioned : unversioned.Fits ∧ unversioned.outer.contents.length < 2 ^ 32 ∧
    U2f.certificateKey? unversioned.write = some [0x04, 0xAA, 0xBB] ∧
    unversioned.Layout unversioned.write ∧
    [0x04, 0xAA, 0xBB] <:+: unversioned.write ∧
    Registration.verify ⟨[], [0x01], unversioned.write, [0x30]⟩ [] [] =
      verifySignature [0x04, 0xAA, 0xBB] [0x00, 0x01] [0x30] := by
  have fits : unversioned.Fits := by decide
  have short : unversioned.outer.contents.length < 2 ^ 32 := by decide +kernel
  have layout : unversioned.Layout unversioned.write := layout_write fits short
  obtain ⟨found, -, inside, checked⟩ := key_is_behind_subject unversioned.write
  have key := found unversioned fits short
  exact ⟨fits, short, key, layout, inside _ key, checked ⟨[], [0x01], unversioned.write, [0x30]⟩ _ [] [] rfl layout⟩

end Certificate

end SecurityKey.U2f
