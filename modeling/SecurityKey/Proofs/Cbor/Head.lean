import Mathlib.Tactic.SplitIfs
import SecurityKey.Cbor.Canonical
import SecurityKey.Cbor.Reader
import SecurityKey.Proofs.Bytes

/-!
# Heads of items

A head is one byte with the major type and the additional information, and the argument in the width that the
information stands for. In this form heads are put in order and read back.
-/

namespace SecurityKey.Cbor

variable {major argument m n : Nat}

/-- The additional information that stands for an argument. -/
def headInformation (argument : Nat) : Nat :=
  if argument < 24 then argument
  else if argument < 0x100 then 24
  else if argument < 0x10000 then 25
  else if argument < 0x100000000 then 26
  else 27

/-- The number of bytes that an argument takes after the first byte of the head. -/
def headWidth (argument : Nat) : Nat :=
  if argument < 24 then 0
  else if argument < 0x100 then 1
  else if argument < 0x10000 then 2
  else if argument < 0x100000000 then 4
  else 8

theorem head_eq : head major argument =
    UInt8.ofNat (32 * major + headInformation argument) :: Bytes.ofNat (headWidth argument) argument := by
  unfold head headInformation headWidth
  split_ifs <;> rfl

theorem headForm_cases (argument : Nat) :
    (argument < 24 ∧ headInformation argument = argument ∧ headWidth argument = 0) ∨
      (headInformation argument = 24 ∧ headWidth argument = 1) ∨
      (headInformation argument = 25 ∧ headWidth argument = 2) ∨
      (headInformation argument = 26 ∧ headWidth argument = 4) ∨
      (headInformation argument = 27 ∧ headWidth argument = 8) := by
  unfold headInformation headWidth
  split_ifs <;> simp_all

@[simp] theorem length_head : (head major argument).length = headWidth argument + 1 := by
  simp [head_eq]

theorem headWidth_mono (h : m ≤ n) : headWidth m ≤ headWidth n := by
  unfold headWidth
  split_ifs <;> omega

theorem lt_pow_headWidth (h : argument < 2 ^ 64) (long : headWidth argument ≠ 0) :
    argument < 256 ^ headWidth argument := by
  unfold headWidth at *
  split_ifs at * <;> simp_all

/-! ## Order -/

theorem precedes_of_length_lt {a b : Bytes} (h : a.length < b.length) : precedes a b = true := by
  simp [precedes, h]

theorem precedes_of_le {a b : Bytes} (len : a.length = b.length) (h : a ≤ b) : precedes a b = true := by
  simp [precedes, len, h]

theorem head_lt_head (_ : major < 8) (hn : n < 2 ^ 64) (width : headWidth m = headWidth n) (h : m < n) :
    head major m < head major n := by
  have form := headForm_cases m
  have form' := headForm_cases n
  simp only [head_eq, List.cons_lt_cons_iff, width]
  by_cases zero : headWidth n = 0
  · refine .inl (UInt8.lt_iff_toNat_lt.2 ?_)
    rw [UInt8.toNat_ofNat', UInt8.toNat_ofNat']
    omega
  · have information : headInformation m = headInformation n := by omega
    exact .inr ⟨by rw [information], Bytes.ofNat_lt_ofNat (lt_pow_headWidth hn zero) h⟩

/-- Heads of one major type are in the order of their arguments. -/
theorem precedes_head (hm : major < 8) (hn : n < 2 ^ 64) (h : m ≤ n) :
    precedes (head major m) (head major n) = true := by
  rcases Nat.lt_or_ge (headWidth m) (headWidth n) with shorter | longer
  · exact precedes_of_length_lt (by simpa using shorter)
  · have width : headWidth m = headWidth n := Nat.le_antisymm (headWidth_mono h) longer
    refine precedes_of_le (by simp [width]) ?_
    rcases Nat.lt_or_eq_of_le h with less | rfl
    · exact List.le_of_lt (head_lt_head hm hn width less)
    · exact List.le_refl _

/-! ## Reading -/

theorem Reader.bind_of_eq {α β : Type} {reader : Reader α} {next : α → Reader β} {input rest : Bytes} {a : α}
    (h : reader input = some (a, rest)) : (reader >>= next) input = next a rest := by
  simp [bind, StateT.bind, h]

theorem byte_cons (b : UInt8) (rest : Bytes) : Reader.byte (b :: rest) = some (b, rest) := rfl

theorem take_append (content rest : Bytes) :
    Reader.take content.length (content ++ rest) = some (content, rest) :=
  Bytes.splitAt?_eq_some_iff.2 ⟨rfl, rfl⟩

theorem number_append (width n : Nat) (rest : Bytes) :
    Reader.number width (Bytes.ofNat width n ++ rest) = some (n % 256 ^ width, rest) := by
  have taken := take_append (Bytes.ofNat width n) rest
  rw [Bytes.length_ofNat] at taken
  rw [Reader.number, Reader.bind_of_eq taken, Bytes.toNat_ofNat_mod]
  rfl

theorem readHead_small (hm : major < 8) (h : n < 24) (rest : Bytes) :
    readHead (UInt8.ofNat (32 * major + n) :: rest) = some ((major, n, .number n), rest) := by
  have initial : (UInt8.ofNat (32 * major + n)).toNat = 32 * major + n := by
    rw [UInt8.toNat_ofNat']; omega
  have high : (32 * major + n) / 32 = major := by omega
  have low : (32 * major + n) % 32 = n := by omega
  rw [readHead, Reader.bind_of_eq (byte_cons _ _)]
  simp only [initial, high, low]
  rw [if_pos h]
  rfl

/-- A head whose argument follows in `width` bytes. -/
theorem readHead_wide {information width : Nat} (hm : major < 8)
    (form : (information, width) ∈ [(24, 1), (25, 2), (26, 4), (27, 8)]) (rest : Bytes) :
    readHead (UInt8.ofNat (32 * major + information) :: (Bytes.ofNat width n ++ rest)) =
      some ((major, information, .number (n % 256 ^ width)), rest) := by
  have bound : information < 28 := by simp at form; omega
  have initial : (UInt8.ofNat (32 * major + information)).toNat = 32 * major + information := by
    rw [UInt8.toNat_ofNat']; omega
  have high : (32 * major + information) / 32 = major := by omega
  have low : (32 * major + information) % 32 = information := by omega
  rw [readHead, Reader.bind_of_eq (byte_cons _ _)]
  simp only [initial, high, low]
  simp only [List.mem_cons, Prod.mk.injEq, List.not_mem_nil, or_false] at form
  rcases form with ⟨rfl, rfl⟩ | ⟨rfl, rfl⟩ | ⟨rfl, rfl⟩ | ⟨rfl, rfl⟩ <;>
    exact Reader.bind_of_eq (number_append _ n rest)

theorem readHead_head (hm : major < 8) (h : argument < 2 ^ 64) (rest : Bytes) :
    readHead (head major argument ++ rest) = some ((major, headInformation argument, .number argument), rest) := by
  have fits := lt_pow_headWidth h
  rw [head_eq, List.cons_append]
  rcases headForm_cases argument with ⟨small, information, width⟩ | wide
  · rw [information, width]
    exact readHead_small hm small rest
  · have form : (headInformation argument, headWidth argument) ∈ [(24, 1), (25, 2), (26, 4), (27, 8)] := by
      simpa using wide
    rw [readHead_wide hm form, Nat.mod_eq_of_lt (fits (by omega))]

end SecurityKey.Cbor
