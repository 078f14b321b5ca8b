import SecurityKey.Cbor.Writer
import SecurityKey.Proofs.Cbor.Head

/-!
# Reading what was written

A value that is not nested too deep is read back from its written form, whatever follows it. The exceptions are the
bignums of up to 16 bytes, which are read as the integers they stand for.
-/

namespace SecurityKey.Cbor

/-- A value with sizes that a head can hold, as those of any value in memory are. -/
inductive Sized : Value → Prop where
  | unsigned (n : UInt64) : Sized (.unsigned n)
  | negative (n : UInt64) : Sized (.negative n)
  | bytes {content : Bytes} (size : content.length < 2 ^ 64) : Sized (.bytes content)
  | text {content : String} (size : (Bytes.ofText content).length < 2 ^ 64) : Sized (.text content)
  | array {items : List Value} (size : items.length < 2 ^ 64) (each : ∀ item ∈ items, Sized item) :
      Sized (.array items)
  | map {entries : List (Value × Value)} (size : entries.length < 2 ^ 64) (keys : ∀ entry ∈ entries, Sized entry.1)
      (values : ∀ entry ∈ entries, Sized entry.2) : Sized (.map entries)
  | tag (number : UInt64) {content : Value} (inner : Sized content) : Sized (.tag number content)
  | bool (b : Bool) : Sized (.bool b)
  | null : Sized .null
  | float (bits : UInt64) : Sized (.float bits)

/-- A value that is read back at a nesting of at most `depth` levels. The sizes are those that a head can hold. -/
inductive Readable : (depth : Nat) → Value → Prop where
  | unsigned (depth : Nat) (n : UInt64) : Readable depth (.unsigned n)
  | negative (depth : Nat) (n : UInt64) : Readable depth (.negative n)
  | bytes (depth : Nat) {content : Bytes} (size : content.length < 2 ^ 64) : Readable depth (.bytes content)
  | text (depth : Nat) {content : String} (size : (Bytes.ofText content).length < 2 ^ 64) :
      Readable depth (.text content)
  | array {depth : Nat} {items : List Value} (size : items.length < 2 ^ 64)
      (each : ∀ item ∈ items, Readable depth item) : Readable (depth + 1) (.array items)
  | map {depth : Nat} {entries : List (Value × Value)} (size : entries.length < 2 ^ 64)
      (keys : ∀ entry ∈ entries, Readable depth entry.1) (values : ∀ entry ∈ entries, Readable depth entry.2) :
      Readable (depth + 1) (.map entries)
  | tag {depth : Nat} {number : UInt64} {content : Value} (inner : Readable depth content)
      (plain : number = 2 ∨ number = 3 → ∀ magnitude, content = .bytes magnitude → 16 < magnitude.length) :
      Readable (depth + 1) (.tag number content)
  | bool (depth : Nat) (b : Bool) : Readable depth (.bool b)
  | null (depth : Nat) : Readable depth .null
  | float (depth : Nat) (bits : UInt64) : Readable depth (.float bits)

theorem Readable.sized {depth : Nat} {value : Value} (h : Readable depth value) : Sized value := by
  induction h with
  | unsigned _ n => exact .unsigned n
  | negative _ n => exact .negative n
  | bytes _ size => exact .bytes size
  | text _ size => exact .text size
  | array size _ each => exact .array size each
  | map size _ _ keys values => exact .map size keys values
  | tag _ _ inner => exact .tag _ inner
  | bool _ b => exact .bool b
  | null _ => exact .null
  | float _ bits => exact .float bits

/-! ## Floats -/

theorem half_widen_mod (bits : Nat) : FloatWidth.half.widen (bits % 256 ^ 2) = FloatWidth.half.widen bits := by
  have sign : bits % 256 ^ 2 / 2 ^ 15 % 2 = bits / 2 ^ 15 % 2 := by omega
  have exponent : bits % 256 ^ 2 / 2 ^ 10 % 2 ^ 5 = bits / 2 ^ 10 % 2 ^ 5 := by omega
  have fraction : bits % 256 ^ 2 % 2 ^ 10 = bits % 2 ^ 10 := by omega
  simp only [FloatWidth.widen, FloatWidth.half, Nat.shiftRight_eq_div_pow, Nat.one_shiftLeft, sign, exponent, fraction]

theorem single_widen_mod (bits : Nat) : FloatWidth.single.widen (bits % 256 ^ 4) = FloatWidth.single.widen bits := by
  have sign : bits % 256 ^ 4 / 2 ^ 31 % 2 = bits / 2 ^ 31 % 2 := by omega
  have exponent : bits % 256 ^ 4 / 2 ^ 23 % 2 ^ 8 = bits / 2 ^ 23 % 2 ^ 8 := by omega
  have fraction : bits % 256 ^ 4 % 2 ^ 23 = bits % 2 ^ 23 := by omega
  simp only [FloatWidth.widen, FloatWidth.single, Nat.shiftRight_eq_div_pow, Nat.one_shiftLeft, sign, exponent,
    fraction]

/-- A float is a head whose argument is read as the bits of the float, in any of its three widths. -/
theorem writeFloat_eq (bits : UInt64) : ∃ information width n,
    (information, width) ∈ [(24, 1), (25, 2), (26, 4), (27, 8)] ∧
      writeFloat bits = UInt8.ofNat (32 * 7 + information) :: Bytes.ofNat width n ∧
      readSimple information (.number (n % 256 ^ width)) = pure (.float bits) := by
  unfold writeFloat
  cases half : FloatWidth.half.narrow? bits.toNat with
  | some narrow =>
      refine ⟨25, 2, narrow, by decide, rfl, ?_⟩
      rw [readSimple, if_pos rfl, half_widen_mod, FloatWidth.widen_of_narrow? half, UInt64.ofNat_toNat]
  | none =>
      cases single : FloatWidth.single.narrow? bits.toNat with
      | some narrow =>
          refine ⟨26, 4, narrow, by decide, rfl, ?_⟩
          rw [readSimple, if_neg (by decide), if_pos rfl, single_widen_mod, FloatWidth.widen_of_narrow? single,
            UInt64.ofNat_toNat]
      | none =>
          have fits : bits.toNat < 256 ^ 8 := bits.toNat_lt
          refine ⟨27, 8, bits.toNat, by decide, rfl, ?_⟩
          rw [readSimple, if_neg (by decide), if_neg (by decide), if_pos rfl, Nat.mod_eq_of_lt fits,
            UInt64.ofNat_toNat]

/-! ## Readers -/

theorem times_flatMap {α : Type} {item : Reader α} {write : α → Bytes} {written : List α}
    (each : ∀ a ∈ written, ∀ rest, item (write a ++ rest) = some (a, rest)) (rest : Bytes) :
    Reader.times item written.length (written.flatMap write ++ rest) = some (written, rest) := by
  induction written with
  | nil => rfl
  | cons a written ih =>
      have first := each a (by simp) (written.flatMap write ++ rest)
      have later := ih fun a mem => each a (by simp [mem])
      rw [List.flatMap_cons, List.append_assoc, List.length_cons, Reader.times, Reader.bind_of_eq first,
        Reader.bind_of_eq later]
      rfl

theorem writeItems_eq (items : List Value) : writeItems items = items.flatMap Value.write := by
  induction items with
  | nil => rfl
  | cons item items ih => rw [writeItems, ih, List.flatMap_cons]

theorem writeEntries_eq (entries : List (Value × Value)) :
    writeEntries entries = entries.flatMap fun entry => entry.1.write ++ entry.2.write := by
  induction entries with
  | nil => rfl
  | cons entry entries ih => rw [writeEntries, ih, List.flatMap_cons, List.append_assoc]

/-! ## Items -/

variable {depth : Nat} {value : Value}

/-- The major type of an item. -/
def Value.major : Value → Nat
  | .unsigned _ => 0
  | .negative _ => 1
  | .bytes _ => 2
  | .text _ => 3
  | .array _ => 4
  | .map _ => 5
  | .tag _ _ => 6
  | .bool _ | .null | .float _ => 7

theorem readHead_bool (b : Bool) (rest : Bytes) : ∃ n, (n = 20 ∧ b = false ∨ n = 21 ∧ b = true) ∧
    readHead ((Value.bool b).write ++ rest) = some ((7, n, .number n), rest) := by
  cases b with
  | false => exact ⟨20, by simp, readHead_small (by decide : 7 < 8) (by decide : 20 < 24) rest⟩
  | true => exact ⟨21, by simp, readHead_small (by decide : 7 < 8) (by decide : 21 < 24) rest⟩

theorem readHead_null (rest : Bytes) : readHead (Value.null.write ++ rest) = some ((7, 22, .number 22), rest) :=
  readHead_small (by decide : 7 < 8) (by decide : 22 < 24) rest

theorem Sized.exists_readHead (h : Sized value) (rest : Bytes) : ∃ information argument left,
    readHead (value.write ++ rest) = some ((value.major, information, argument), left) := by
  cases h with
  | unsigned n => exact ⟨_, _, _, readHead_head (by decide) n.toNat_lt rest⟩
  | negative n => exact ⟨_, _, _, readHead_head (by decide) n.toNat_lt rest⟩
  | bytes size =>
      rw [Value.write, List.append_assoc]
      exact ⟨_, _, _, readHead_head (by decide) size _⟩
  | text size =>
      rw [Value.write, List.append_assoc]
      exact ⟨_, _, _, readHead_head (by decide) size _⟩
  | array size _ =>
      rw [Value.write, List.append_assoc]
      exact ⟨_, _, _, readHead_head (by decide) size _⟩
  | map size _ _ =>
      rw [Value.write, List.append_assoc]
      exact ⟨_, _, _, readHead_head (by decide) size _⟩
  | tag number _ =>
      rw [Value.write, List.append_assoc]
      exact ⟨_, _, _, readHead_head (by decide) number.toNat_lt _⟩
  | bool b =>
      obtain ⟨n, -, start⟩ := readHead_bool b rest
      exact ⟨_, _, _, start⟩
  | null => exact ⟨_, _, _, readHead_null rest⟩
  | float bits =>
      obtain ⟨information, width, n, form, written, -⟩ := writeFloat_eq bits
      rw [Value.write, written, List.cons_append]
      exact ⟨_, _, _, readHead_wide (by decide) form rest⟩

theorem major_ne_two (h : ∀ content, value ≠ .bytes content) : value.major ≠ 2 := by
  cases value with
  | bytes content => exact absurd rfl (h content)
  | _ => simp [Value.major]

theorem readBignum_eq_none (h : Readable depth value) {number : Nat}
    (plain : number = 2 ∨ number = 3 → ∀ magnitude, value = .bytes magnitude → 16 < magnitude.length) (rest : Bytes) :
    readBignum number (value.write ++ rest) = some (none, value.write ++ rest) := by
  unfold readBignum
  by_cases big : number = 2 ∨ number = 3
  · rw [if_pos big]
    by_cases string : ∃ content, value = .bytes content
    · obtain ⟨content, rfl⟩ := string
      cases h with
      | bytes _ size =>
          rw [Value.write, List.append_assoc, readHead_head (by decide : 2 < 8) size]
          simp only
          rw [if_neg (Nat.not_le.2 (plain big _ rfl))]
    · obtain ⟨information, argument, left, start⟩ := h.sized.exists_readHead rest
      have other := major_ne_two (not_exists.1 string)
      rw [start]
      split
      · rename_i same
        simp only [Option.some.injEq, Prod.mk.injEq] at same
        exact absurd same.1.1 other
      · rfl
  · rw [if_neg big]

/-- What was written is read back. -/
theorem readItem_write (h : Readable depth value) (rest : Bytes) :
    readItem depth (value.write ++ rest) = some (value, rest) := by
  -- `rest` stays general because an item inside of another one is followed by its siblings.
  induction h generalizing rest with
  | unsigned depth n =>
      have start := readHead_head (by decide : 0 < 8) n.toNat_lt rest
      rw [Value.write, readItem, Reader.bind_of_eq start]
      simp only [UInt64.ofNat_toNat]
      rfl
  | negative depth n =>
      have start := readHead_head (by decide : 1 < 8) n.toNat_lt rest
      rw [Value.write, readItem, Reader.bind_of_eq start]
      simp only [UInt64.ofNat_toNat]
      rfl
  | @bytes depth content size =>
      have start := readHead_head (by decide : 2 < 8) size (content ++ rest)
      rw [Value.write, readItem, List.append_assoc, Reader.bind_of_eq start]
      simp only
      rw [Reader.bind_of_eq (take_append content rest)]
      rfl
  | @text depth content size =>
      have start := readHead_head (by decide : 3 < 8) size (Bytes.ofText content ++ rest)
      rw [Value.write, readItem, List.append_assoc, Reader.bind_of_eq start]
      simp only
      rw [Reader.bind_of_eq (take_append (Bytes.ofText content) rest), Bytes.toText?_ofText]
      rfl
  | @array depth items size _ ih =>
      have start := readHead_head (by decide : 4 < 8) size (writeItems items ++ rest)
      rw [Value.write, readItem, List.append_assoc, Reader.bind_of_eq start]
      simp only [readSequence]
      rw [writeItems_eq, Reader.bind_of_eq (times_flatMap ih rest)]
      rfl
  | @map depth entries size _ _ keys values =>
      have start := readHead_head (by decide : 5 < 8) size (writeEntries entries ++ rest)
      have each (entry : Value × Value) (mem : entry ∈ entries) (rest : Bytes) :
          (do return (← readItem depth, ← readItem depth) : Reader (Value × Value))
            ((entry.1.write ++ entry.2.write) ++ rest) = some (entry, rest) := by
        rw [List.append_assoc, Reader.bind_of_eq (keys entry mem _), Reader.bind_of_eq (values entry mem rest)]
        rfl
      rw [Value.write, readItem, List.append_assoc, Reader.bind_of_eq start]
      simp only [readSequence]
      rw [writeEntries_eq, Reader.bind_of_eq (times_flatMap each rest)]
      rfl
  | @tag depth number content inner plain ih =>
      have start := readHead_head (by decide : 6 < 8) number.toNat_lt (content.write ++ rest)
      have plain : number.toNat = 2 ∨ number.toNat = 3 →
          ∀ magnitude, content = .bytes magnitude → 16 < magnitude.length :=
        fun big => plain (big.imp UInt64.toNat_inj.1 UInt64.toNat_inj.1)
      rw [Value.write, readItem, List.append_assoc, Reader.bind_of_eq start]
      simp only
      rw [Reader.bind_of_eq (readBignum_eq_none inner plain rest)]
      simp only
      rw [Reader.bind_of_eq (ih rest), UInt64.ofNat_toNat]
      rfl
  | bool depth b =>
      obtain ⟨n, which, start⟩ := readHead_bool b rest
      rw [readItem, Reader.bind_of_eq start]
      rcases which with ⟨rfl, rfl⟩ | ⟨rfl, rfl⟩ <;> rfl
  | null depth =>
      rw [readItem, Reader.bind_of_eq (readHead_null rest)]
      rfl
  | float depth bits =>
      obtain ⟨information, width, n, form, written, float⟩ := writeFloat_eq bits
      have start := readHead_wide (n := n) (by decide : 7 < 8) form rest
      rw [Value.write, written, readItem, List.cons_append, Reader.bind_of_eq start]
      simp only
      rw [float]
      rfl

end SecurityKey.Cbor
