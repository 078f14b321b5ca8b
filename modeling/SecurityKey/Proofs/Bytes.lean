import Mathlib.Algebra.Group.Nat.Defs
import Mathlib.Data.List.Induction
import SecurityKey.Bytes

/-!
# Numbers and parts of byte strings

Reading a number takes back what was written, and numbers written in one width are ordered as the bytes are.
-/

namespace SecurityKey.Bytes

/-! ## Numbers -/

@[simp] theorem toNat_concat (bytes : Bytes) (b : UInt8) : toNat (bytes ++ [b]) = 256 * toNat bytes + b.toNat := by
  simp [toNat]

theorem toNat_ofNat_mod (width n : Nat) : toNat (ofNat width n) = n % 256 ^ width := by
  induction width generalizing n with
  | zero => simp [ofNat, toNat, Nat.mod_one]
  | succ width ih =>
      have digits : n % 256 ^ (width + 1) = n % 256 + 256 * (n / 256 % 256 ^ width) := by
        rw [Nat.pow_succ', Nat.mod_mul]
      rw [ofNat, toNat_concat, ih, digits, UInt8.toNat_ofNat']
      omega

theorem toNat_ofNat_of_lt {width n : Nat} (h : n < 256 ^ width) : toNat (ofNat width n) = n := by
  rw [toNat_ofNat_mod, Nat.mod_eq_of_lt h]

theorem toNat_lt (bytes : Bytes) : toNat bytes < 256 ^ bytes.length := by
  induction bytes using List.reverseRecOn with
  | nil => exact Nat.one_pos
  | append_singleton bytes b ih =>
      have := b.toNat_lt
      rw [toNat_concat, List.length_append, List.length_singleton, Nat.pow_succ]
      omega

theorem ofNat_toNat (bytes : Bytes) : ofNat bytes.length (toNat bytes) = bytes := by
  induction bytes using List.reverseRecOn with
  | nil => rfl
  | append_singleton bytes b ih =>
      have front : (256 * toNat bytes + b.toNat) / 256 = toNat bytes := by
        have := b.toNat_lt
        omega
      have last : UInt8.ofNat (256 * toNat bytes + b.toNat) = b := by
        rw [UInt8.ofNat_add, UInt8.ofNat_mul, UInt8.ofNat_toNat]
        simp
      rw [List.length_append, List.length_singleton, toNat_concat, ofNat, front, last, ih]

/-! ## Texts -/

theorem toText?_ofText (text : String) : toText? (ofText text) = some text := by
  unfold toText? ofText
  rw [Array.toArray_toList]
  unfold String.fromUTF8?
  rw [dif_pos text.isValidUTF8]
  rfl

theorem ofText_inj {text other : String} (same : ofText text = ofText other) : text = other := by
  have read := toText?_ofText text
  rw [same, toText?_ofText other] at read
  exact (Option.some.inj read).symm

/-! ## Parts -/

variable {size : Nat}

theorem parts_nil (size count : Nat) : parts size count [] = [] := by
  cases count <;> rfl

/-- Counting more parts than there are changes nothing. -/
theorem parts_eq_parts (positive : 0 < size) {m n : Nat} {bytes : Bytes} (hm : bytes.length ≤ m)
    (hn : bytes.length ≤ n) : parts size m bytes = parts size n bytes := by
  induction m generalizing n bytes with
  | zero =>
      rw [List.eq_nil_of_length_eq_zero (Nat.le_zero.1 hm), parts_nil, parts_nil]
  | succ m ih =>
      cases n with
      | zero => rw [List.eq_nil_of_length_eq_zero (Nat.le_zero.1 hn), parts_nil, parts_nil]
      | succ n =>
          cases bytes with
          | nil => rfl
          | cons b bytes =>
              have rest : ((b :: bytes).drop size).length ≤ bytes.length := by
                rw [List.length_drop, List.length_cons]
                omega
              simp only [parts, List.isEmpty_cons, Bool.false_eq_true, if_false]
              rw [ih (Nat.le_trans rest (by simpa using hm)) (Nat.le_trans rest (by simpa using hn))]

theorem chunks_append {front : Bytes} (len : front.length = size) (positive : 0 < size) (rest : Bytes) :
    chunks size (front ++ rest) = front :: chunks size rest := by
  subst len
  cases front with
  | nil => cases positive
  | cons b front =>
      simp only [chunks, List.cons_append, List.length_cons, parts, List.isEmpty_cons, Bool.false_eq_true, if_false]
      rw [← List.cons_append, ← List.length_cons, List.take_left, List.drop_left,
        parts_eq_parts positive (by simp) (Nat.le_refl _)]

theorem flatten_parts (positive : 0 < size) {count : Nat} {bytes : Bytes} (enough : bytes.length ≤ count) :
    (parts size count bytes).flatten = bytes := by
  induction count generalizing bytes with
  | zero => rw [List.eq_nil_of_length_eq_zero (Nat.le_zero.1 enough), parts_nil, List.flatten_nil]
  | succ count ih =>
      cases bytes with
      | nil => rfl
      | cons b bytes =>
          have rest : ((b :: bytes).drop size).length ≤ count := by
            rw [List.length_drop, List.length_cons] at *
            omega
          simp only [parts, List.isEmpty_cons, Bool.false_eq_true, if_false]
          rw [List.flatten_cons, ih rest, List.take_append_drop]

theorem flatten_chunks (positive : 0 < size) (bytes : Bytes) : (chunks size bytes).flatten = bytes :=
  flatten_parts positive (Nat.le_refl _)

theorem chunks_ne_nil (positive : 0 < size) {bytes : Bytes} (h : bytes ≠ []) : chunks size bytes ≠ [] := by
  intro empty
  have whole := flatten_chunks positive bytes
  rw [empty] at whole
  exact h whole.symm

theorem length_le_of_mem_parts {count : Nat} {bytes part : Bytes} (mem : part ∈ parts size count bytes) :
    part.length ≤ size := by
  induction count generalizing bytes with
  | zero => cases mem
  | succ count ih =>
      cases bytes with
      | nil => cases mem
      | cons b bytes =>
          simp only [parts, List.isEmpty_cons, Bool.false_eq_true, if_false] at mem
          rcases List.mem_cons.1 mem with rfl | mem
          · exact List.length_take_le _ _
          · exact ih mem

/-- All parts but the last are full, and the last one is not empty. -/
theorem parts_eq_concat (positive : 0 < size) {count : Nat} {bytes : Bytes} (enough : bytes.length ≤ count)
    (some_byte : bytes ≠ []) :
    ∃ before last, parts size count bytes = before ++ [last] ∧ (∀ part ∈ before, part.length = size) ∧ last ≠ [] := by
  induction count generalizing bytes with
  | zero => exact absurd (List.eq_nil_of_length_eq_zero (Nat.le_zero.1 enough)) some_byte
  | succ count ih =>
      obtain ⟨b, rest, rfl⟩ := List.exists_cons_of_ne_nil some_byte
      have front : (b :: rest).take size ≠ [] := by simp [Nat.pos_iff_ne_zero.1 positive]
      simp only [parts, List.isEmpty_cons, Bool.false_eq_true, if_false]
      by_cases last : (b :: rest).drop size = []
      · exact ⟨[], _, by rw [last, parts_nil, List.nil_append], by simp, front⟩
      · have fewer : ((b :: rest).drop size).length ≤ count := by
          rw [List.length_drop, List.length_cons] at *
          omega
        have full : ((b :: rest).take size).length = size := by
          have := mt List.drop_eq_nil_of_le last
          rw [List.length_take]
          omega
        obtain ⟨before, final, cut, each, some_final⟩ := ih fewer last
        exact ⟨_ :: before, final, by rw [cut, List.cons_append], List.forall_mem_cons.2 ⟨full, each⟩, some_final⟩

theorem chunks_eq_concat (positive : 0 < size) {bytes : Bytes} (some_byte : bytes ≠ []) :
    ∃ before last, chunks size bytes = before ++ [last] ∧ (∀ part ∈ before, part.length = size) ∧ last ≠ [] :=
  parts_eq_concat positive (Nat.le_refl _) some_byte

/-! ## Order -/

theorem append_lt_append_of_lt {a b : Bytes} (h : a < b) (len : a.length = b.length) (x y : Bytes) :
    a ++ x < b ++ y := by
  induction a generalizing b with
  | nil =>
    cases b with
    | nil => exact absurd h (List.lt_irrefl _)
    | cons _ _ => simp at len
  | cons d a ih =>
    cases b with
    | nil => simp at len
    | cons e b =>
      simp only [List.cons_append, List.cons_lt_cons_iff] at h ⊢
      rcases h with h | ⟨rfl, h⟩
      · exact .inl h
      · exact .inr ⟨rfl, ih h (by simpa using len)⟩

theorem ofNat_lt_ofNat {width m n : Nat} (hn : n < 256 ^ width) (h : m < n) : ofNat width m < ofNat width n := by
  induction width generalizing m n with
  | zero => simp at hn; omega
  | succ width ih =>
    have front : n / 256 < 256 ^ width := by rw [Nat.pow_succ] at hn; omega
    simp only [ofNat]
    rcases Nat.lt_or_ge (m / 256) (n / 256) with less | more
    · exact append_lt_append_of_lt (ih front less) (by simp) _ _
    · have same : m / 256 = n / 256 := by omega
      rw [same]
      refine List.append_left_lt ?_
      rw [List.cons_lt_cons_iff]
      refine .inl (UInt8.lt_iff_toNat_lt.2 ?_)
      rw [UInt8.toNat_ofNat', UInt8.toNat_ofNat']
      omega

end SecurityKey.Bytes
