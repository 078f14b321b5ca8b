import SecurityKey.Proofs.Card.Apdu

/-!
# Layouts of APDUs

What an APDU is by ISO 7816-4, apart from how one is written and read. Reading takes exactly these layouts, and every
wire form of a command has one of them.
-/

namespace SecurityKey.Card

/-- The bytes of a command APDU that asks for as much as can come back. A body stands behind its length, which takes one
byte, or two behind a zero. -/
inductive Layout (header : Header) : (body wire : Bytes) → Prop where
  | short : Layout header [] (header.toBytes ++ [0x00])
  | shortBody {body : Bytes} (length : UInt8) : body ≠ [] → length.toNat = body.length →
      Layout header body (header.toBytes ++ length :: (body ++ [0x00]))
  | extended : Layout header [] (header.toBytes ++ [0x00, 0x00, 0x00])
  | extendedBody {body : Bytes} (high low : UInt8) : body ≠ [] → 256 * high.toNat + low.toNat = body.length →
      Layout header body (header.toBytes ++ 0x00 :: high :: low :: (body ++ [0x00, 0x00]))

namespace Apdu

variable {header : Header} {body wire : Bytes}

theorem layout_of_readShort? (h : readShort? wire = some ⟨header, body⟩) : Layout header body wire := by
  unfold readShort? at h
  split at h
  · cases h
    exact .short
  · rename_i cla ins p1 p2 length rest _
    cases cut : Bytes.splitAt? length.toNat rest with
    | none => simp [cut] at h
    | some parts =>
      obtain ⟨data, expected⟩ := parts
      obtain ⟨counted, rfl⟩ := Bytes.splitAt?_eq_some_iff.1 cut
      simp only [cut, bind, Option.bind] at h
      split at h
      · rename_i fits
        obtain ⟨positive, rfl⟩ := fits
        cases h
        have filled : body ≠ [] := by
          rintro rfl
          exact positive (UInt8.toNat_inj.1 counted.symm)
        have layout : Layout ⟨cla, ins, p1, p2⟩ body _ := .shortBody length filled counted.symm
        exact layout
      · cases h
  · cases h

theorem layout_of_readExtended? (h : readExtended? wire = some ⟨header, body⟩) : Layout header body wire := by
  unfold readExtended? at h
  split at h
  · cases h
    exact .extended
  · rename_i cla ins p1 p2 high low rest _
    have total : Bytes.toNat [high, low] = 256 * high.toNat + low.toNat := by simp [Bytes.toNat]
    cases cut : Bytes.splitAt? (Bytes.toNat [high, low]) rest with
    | none => simp [cut] at h
    | some parts =>
      obtain ⟨data, expected⟩ := parts
      obtain ⟨counted, rfl⟩ := Bytes.splitAt?_eq_some_iff.1 cut
      simp only [cut, bind, Option.bind] at h
      split at h
      · rename_i fits
        obtain ⟨positive, rfl⟩ := fits
        cases h
        have filled : body ≠ [] := by
          rintro rfl
          exact positive counted.symm
        have layout : Layout ⟨cla, ins, p1, p2⟩ body _ := .extendedBody high low filled (total.symm.trans counted.symm)
        exact layout
      · cases h
  · cases h

theorem encodeShort_eq {length : UInt8} (some_body : body ≠ []) (counted : length.toNat = body.length) :
    encodeShort header body = header.toBytes ++ length :: (body ++ [0x00]) := by
  have written : Bytes.ofNat 1 body.length = [length] := by simp [Bytes.ofNat, ← counted]
  simp [encodeShort, some_body, written]

theorem encodeExtended_eq {high low : UInt8} (some_body : body ≠ [])
    (counted : 256 * high.toNat + low.toNat = body.length) :
    encodeExtended header body = header.toBytes ++ 0x00 :: high :: low :: (body ++ [0x00, 0x00]) := by
  have written : Bytes.ofNat 2 body.length = [high, low] := by
    have front : (256 * high.toNat + low.toNat) / 256 = high.toNat := by have := low.toNat_lt; omega
    simp [Bytes.ofNat, ← counted, front]
  simp [encodeExtended, some_body, written]

theorem read?_encodeExtended_of_le (header : Header) (fits : body.length ≤ extendedLimit) :
    read? (encodeExtended header body) = some ⟨header, body⟩ := by
  cases body with
  | nil => rfl
  | cons b body => exact read?_encodeExtended header (List.cons_ne_nil b body) fits

/-- What is read as a command is what has the layout of one. -/
theorem read?_eq_some_iff : read? wire = some ⟨header, body⟩ ↔ Layout header body wire := by
  constructor
  · intro h
    rcases Option.or_eq_some_iff.1 (Option.orElse_eq_or.symm.trans h) with short | ⟨-, extended⟩
    · exact layout_of_readShort? short
    · exact layout_of_readExtended? extended
  · intro layout
    cases layout with
    | short => rfl
    | extended => rfl
    | shortBody length some_body counted =>
      have := length.toNat_lt
      rw [← encodeShort_eq some_body counted]
      exact read?_encodeShort header (by rw [shortLimit]; omega)
    | extendedBody high low some_body counted =>
      have := high.toNat_lt
      have := low.toNat_lt
      rw [← encodeExtended_eq some_body counted]
      exact read?_encodeExtended header some_body (by rw [extendedLimit]; omega)

/-! ## The wire forms of a command -/

theorem encodeChain_concat (header : Header) (before : List Bytes) (last : Bytes) :
    encodeChain header (before ++ [last]) = before.map (encodeShort header.chained) ++ [encodeShort header last] := by
  induction before with
  | nil => rfl
  | cons body before ih =>
    obtain ⟨next, bodies, cut⟩ := List.exists_cons_of_ne_nil (List.concat_ne_nil last before)
    rw [List.cons_append, cut, encodeChain_cons, ← cut, ih]
    rfl

/-- The wire forms of a command, read one after another, are full parts marked as chained and the rest of the body in a
last part under the header of the command. -/
structure ReadBack (apdu : Apdu) (extendedLength : Bool) (before : List Bytes) (last : Bytes) : Prop where
  read : (apdu.encode extendedLength).map read? =
    before.map (fun body => some ⟨apdu.header.chained, body⟩) ++ [some ⟨apdu.header, last⟩]
  whole : before.flatten ++ last = apdu.data
  full : ∀ body ∈ before, body.length = 255
  filled : before ≠ [] → last ≠ []
  alone : before = [] ↔ apdu.data.length ≤ 255 ∨ extendedLength ∧ apdu.data.length ≤ 65535

variable {apdu : Apdu} {extendedLength : Bool}

theorem ReadBack.layout {before : List Bytes} {last : Bytes} (h : apdu.ReadBack extendedLength before last)
    (mem : wire ∈ apdu.encode extendedLength) : ∃ part, read? wire = some part ∧ Layout part.header part.data wire := by
  have found : read? wire ∈ (apdu.encode extendedLength).map read? := List.mem_map_of_mem mem
  rw [h.read, List.mem_append, List.mem_map, List.mem_singleton] at found
  rcases found with ⟨body, -, same⟩ | same
  · exact ⟨_, same.symm, read?_eq_some_iff.1 same.symm⟩
  · exact ⟨_, same, read?_eq_some_iff.1 same⟩

theorem readBack_of_alone (single : apdu.data.length ≤ 255 ∨ extendedLength ∧ apdu.data.length ≤ 65535) :
    apdu.ReadBack extendedLength [] apdu.data := by
  refine ⟨?_, rfl, by simp, fun none => absurd rfl none, iff_of_true rfl single⟩
  by_cases short : apdu.data.length ≤ shortLimit
  · rw [encode, if_pos short, List.map_singleton, read?_encodeShort apdu.header short]
    rfl
  · have fits : extendedLength ∧ apdu.data.length ≤ extendedLimit := single.resolve_left short
    rw [encode, if_neg short, if_pos fits, List.map_singleton,
      read?_encodeExtended apdu.header (ne_nil_of_not_short short) fits.2]
    rfl

theorem exists_readBack_of_chain (chain : ¬(apdu.data.length ≤ 255 ∨ extendedLength ∧ apdu.data.length ≤ 65535)) :
    ∃ before last, apdu.ReadBack extendedLength before last := by
  obtain ⟨long, unfit⟩ : ¬apdu.data.length ≤ shortLimit ∧ ¬(extendedLength ∧ apdu.data.length ≤ extendedLimit) :=
    not_or.1 chain
  obtain ⟨before, last, cut, full, some_byte⟩ :=
    Bytes.chunks_eq_concat (show 0 < shortLimit by decide) (ne_nil_of_not_short long)
  have whole : before.flatten ++ last = apdu.data := by
    have := Bytes.flatten_chunks (show 0 < shortLimit by decide) apdu.data
    rwa [cut, List.flatten_append, List.flatten_singleton] at this
  have short : ∀ body ∈ Bytes.chunks shortLimit apdu.data, body.length ≤ shortLimit :=
    fun body mem => Bytes.length_le_of_mem_parts mem
  rw [cut] at short
  have last_short := short last (by simp)
  refine ⟨before, last, ?_, whole, full, fun _ => some_byte, iff_of_false ?_ chain⟩
  · rw [encode, if_neg long, if_neg unfit, cut, encodeChain_concat, List.map_append, List.map_map,
      List.map_singleton, read?_encodeShort apdu.header last_short]
    congr 1
    exact List.map_congr_left fun body mem => read?_encodeShort _ (short body (by simp [mem]))
  · rintro rfl
    rw [← whole] at long
    exact long last_short

theorem exists_readBack (apdu : Apdu) (extendedLength : Bool) :
    ∃ before last, apdu.ReadBack extendedLength before last := by
  by_cases single : apdu.data.length ≤ 255 ∨ extendedLength ∧ apdu.data.length ≤ 65535
  · exact ⟨[], apdu.data, readBack_of_alone single⟩
  · exact exists_readBack_of_chain single

end Apdu

end SecurityKey.Card
