import SecurityKey.Proofs.Cbor.Order
import SecurityKey.Proofs.Cbor.Reading

/-!
# What values stand for

A reader of one kind of value takes exactly the values of that kind, and an integer is read back from its value.
-/

namespace SecurityKey.Cbor.Value

variable {value : Value}

theorem unsigned?_eq_some_iff {n : UInt64} : value.unsigned? = some n ↔ value = .unsigned n := by
  cases value <;> simp [unsigned?]

theorem bytes?_eq_some_iff {content : Bytes} : value.bytes? = some content ↔ value = .bytes content := by
  cases value <;> simp [bytes?]

theorem text?_eq_some_iff {content : String} : value.text? = some content ↔ value = .text content := by
  cases value <;> simp [text?]

theorem bool?_eq_some_iff {b : Bool} : value.bool? = some b ↔ value = .bool b := by
  cases value <;> simp [bool?]

theorem array?_eq_some_iff {items : List Value} : value.array? = some items ↔ value = .array items := by
  cases value <;> simp [array?]

theorem map?_eq_some_iff {entries : List (Value × Value)} : value.map? = some entries ↔ value = .map entries := by
  cases value <;> simp [map?]

/-! ## Integers -/

theorem signed?_ofInt64 (n : Int64) : (ofInt64 n).signed? = some n := by
  have above := n.toInt_lt
  have below := n.le_toInt
  unfold ofInt64
  split
  · rename_i nonnegative
    have number : (UInt64.ofNat n.toInt.toNat).toNat = n.toInt.toNat := by
      rw [UInt64.toNat_ofNat']
      omega
    have small : UInt64.ofNat n.toInt.toNat < 0x8000000000000000 := by
      rw [UInt64.lt_iff_toNat_lt, number]
      show _ < 0x8000000000000000
      omega
    rw [signed?, if_pos small, number, ← Int64.ofInt_eq_ofNat, Int.toNat_of_nonneg nonnegative, Int64.ofInt_toInt]
  · rename_i negative
    have number : (UInt64.ofNat (-1 - n.toInt).toNat).toNat = (-1 - n.toInt).toNat := by
      rw [UInt64.toNat_ofNat']
      omega
    have small : UInt64.ofNat (-1 - n.toInt).toNat < 0x8000000000000000 := by
      rw [UInt64.lt_iff_toNat_lt, number]
      show _ < 0x8000000000000000
      omega
    have same : -1 - ((-1 - n.toInt).toNat : Int) = n.toInt := by omega
    rw [signed?, if_pos small, number, same, Int64.ofInt_toInt]

@[simp] theorem order_ofInt64 (n : Int64) : (ofInt64 n).order = (ofInt64 n, none) := by
  unfold ofInt64
  split <;> rfl

theorem readable_ofInt64 (depth : Nat) (n : Int64) : Readable depth (ofInt64 n) := by
  unfold ofInt64
  split
  · exact .unsigned depth _
  · exact .negative depth _

end SecurityKey.Cbor.Value
