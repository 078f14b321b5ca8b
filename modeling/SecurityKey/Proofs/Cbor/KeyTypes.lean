import SecurityKey.Proofs.Cbor.Sorting

/-!
# Keys of different types

The order of keys looks at their length before it looks at anything else, so it keeps their types apart only as far as
their lengths do: where a key is written longer than one of a later type, it stands behind that one.
-/

namespace SecurityKey.Cbor

/-- Keys of which the first one belongs before the second one for its type: unsigned integers before negative ones, and
integers before texts. -/
inductive EarlierType : Value → Value → Prop where
  | signs (m n : UInt64) : EarlierType (.unsigned m) (.negative n)
  | unsignedText (n : UInt64) (content : String) : EarlierType (.unsigned n) (.text content)
  | negativeText (n : UInt64) (content : String) : EarlierType (.negative n) (.text content)

/-- Keys in the order of their types. -/
def TypesInOrder (keys : List Value) : Prop :=
  keys.Pairwise fun a b => ¬EarlierType b a

/-- No key is written longer than a key of a later type. -/
def NoneLonger (keys : List Value) : Prop :=
  ∀ a ∈ keys, ∀ b ∈ keys, EarlierType a b → a.write.length ≤ b.write.length

variable {major major' m n : Nat} {a b value result : Value} {keys : List Value} {p q : List Value → Prop}

theorem headInformation_lt (argument : Nat) : headInformation argument < 32 := by
  have form := headForm_cases argument
  omega

/-- The first byte of a head tells its major type before anything else. -/
theorem head_append_lt (h : major < major') (small : major' < 8) (x y : Bytes) :
    head major m ++ x < head major' n ++ y := by
  have information := headInformation_lt m
  have information' := headInformation_lt n
  rw [head_eq, head_eq, List.cons_append, List.cons_append, List.cons_lt_cons_iff]
  refine .inl (UInt8.lt_iff_toNat_lt.2 ?_)
  rw [UInt8.toNat_ofNat', UInt8.toNat_ofNat']
  omega

theorem EarlierType.write_lt (h : EarlierType a b) : a.write < b.write := by
  cases h with
  | signs m n => simpa [Value.write] using head_append_lt (by decide : 0 < 1) (by decide) [] []
  | unsignedText n content => simpa [Value.write] using head_append_lt (by decide : 0 < 3) (by decide) [] _
  | negativeText n content => simpa [Value.write] using head_append_lt (by decide : 1 < 3) (by decide) [] _

/-- Keys in order stand in the order of their types exactly when none is written longer than one of a later type. -/
theorem typesInOrder_iff (inOrder : InOrder keys) : TypesInOrder keys ↔ NoneLonger keys := by
  constructor
  · intro types
    -- Where both stand in the list, the earlier one is not the longer one, and it is that of the earlier type.
    have either : keys.Pairwise fun a b => (EarlierType a b → a.write.length ≤ b.write.length) ∧
        (EarlierType b a → b.write.length ≤ a.write.length) := by
      refine (inOrder.and types).imp fun {a b} => ?_
      rintro ⟨before, type⟩
      exact ⟨fun _ => by omega, fun later => absurd later type⟩
    refine List.Pairwise.forall_of_forall_of_flip ?_ (either.imp And.left) (either.imp And.right)
    intro a _ same
    exact Nat.le_refl _
  · intro none
    refine inOrder.imp_of_mem fun {a b} ha hb before later => ?_
    have short := none b hb a ha later
    have le : a.write ≤ b.write := (before.resolve_left (by omega)).2
    exact List.not_lt.2 le later.write_lt

theorem EachMap.and (left : EachMap p value) (right : EachMap q value) :
    EachMap (fun keys => p keys ∧ q keys) value := by
  induction left with
  | atom atom => exact .atom atom
  | array _ ih => exact .array fun item mem => ih item mem (right.of_array item mem)
  | map here _ ih => exact .map ⟨here, right.of_map.1⟩ fun entry mem => ih entry mem (right.of_map.2 entry mem)
  | tag number _ ih => exact .tag number (ih right.of_tag)

theorem NoneLonger.perm {keys others : List Value} (perm : keys.Perm others) (h : NoneLonger keys) :
    NoneLonger others :=
  fun a ha b hb => h a (perm.mem_iff.2 ha) b (perm.mem_iff.2 hb)

/-- In a value that was put in order, the keys of every map stand in the order of their types exactly when no map had a
key that is written longer than one of a later type. -/
theorem types_in_order_iff_none_longer (h : value.ordered = .ok result) :
    EachMap TypesInOrder result ↔ EachMap NoneLonger value := by
  obtain ⟨-, sorts⟩ := ordered_eq_ok_iff.1 h
  have inOrder := sorts.inOrder
  have reordered := sorts.reordered
  constructor
  · intro types
    have none : EachMap NoneLonger result :=
      (inOrder.and types).imp fun keys both => (typesInOrder_iff both.1).1 both.2
    exact reordered.symm.eachMap NoneLonger.perm none
  · intro none
    have none : EachMap NoneLonger result := reordered.eachMap NoneLonger.perm none
    exact (inOrder.and none).imp fun keys both => (typesInOrder_iff both.1).2 both.2

/-- The map of a public key, with its members out of order. -/
def looseKey : Value := .map [
  (.negative 2, .text "y"), (.negative 0, .unsigned 1), (.unsigned 3, .negative 24), (.negative 1, .text "x"),
  (.unsigned 1, .unsigned 2)]

/-- The same map in order. -/
def orderedKey : Value := .map [
  (.unsigned 1, .unsigned 2), (.unsigned 3, .negative 24), (.negative 0, .unsigned 1), (.negative 1, .text "x"),
  (.negative 2, .text "y")]

theorem types_of_looseKey : looseKey.ordered = .ok orderedKey ∧ EachMap TypesInOrder orderedKey := by
  have unsigned1 : (Value.unsigned 1).keyForm? = some [0x01] := rfl
  have unsigned3 : (Value.unsigned 3).keyForm? = some [0x03] := rfl
  have negative0 : (Value.negative 0).keyForm? = some [0x20] := rfl
  have negative1 : (Value.negative 1).keyForm? = some [0x21] := rfl
  have negative2 : (Value.negative 2).keyForm? = some [0x22] := rfl
  have ordered : looseKey.ordered = .ok orderedKey := by
    simp +decide [looseKey, orderedKey, Value.ordered, Value.order, orderEntries, unsigned1, unsigned3, negative0,
      negative1, negative2, sortEntries, precedes, List.mergeSort, List.MergeSort.Internal.splitInTwo]
  have lengths : ∀ key ∈ [Value.negative 2, .negative 0, .unsigned 3, .negative 1, .unsigned 1],
      key.write.length = 1 := by decide
  have short : EachMap NoneLonger looseKey := by
    refine .map (fun a ha b hb _ => ?_) ?_
    · exact Nat.le_of_eq ((lengths a ha).trans (lengths b hb).symm)
    · simp only [List.forall_mem_cons, List.not_mem_nil, false_implies, implies_true]
      exact ⟨.atom rfl, .atom rfl, .atom rfl, .atom rfl, .atom rfl, trivial⟩
  exact ⟨ordered, (types_in_order_iff_none_longer ordered).2 short⟩

/-- A map with a long unsigned key beside a negative one and a text. -/
def mixedKeys : Value := .map [(.negative 0, .unsigned 1), (.text "a", .unsigned 2), (.unsigned 1000, .unsigned 3)]

theorem length_goes_before_type : mixedKeys.ordered = .ok mixedKeys ∧
    mixedKeys.canonical = .ok [0xA3, 0x20, 0x01, 0x61, 0x61, 0x02, 0x19, 0x03, 0xE8, 0x03] ∧
    ¬EachMap TypesInOrder mixedKeys := by
  have negative : (Value.negative 0).keyForm? = some [0x20] := rfl
  have letter : (Value.text "a").keyForm? = some [0x61, 0x61] := rfl
  have long : (Value.unsigned 1000).keyForm? = some [0x19, 0x03, 0xE8] := rfl
  have ordered : mixedKeys.ordered = .ok mixedKeys := by
    simp +decide [mixedKeys, Value.ordered, Value.order, orderEntries, negative, letter, long, sortEntries, precedes,
      List.mergeSort, List.MergeSort.Internal.splitInTwo]
  refine ⟨ordered, by rw [Value.canonical, ordered]; rfl, fun types => ?_⟩
  have apart : TypesInOrder [.negative 0, .text "a", .unsigned 1000] := types.of_map.1
  exact (List.pairwise_cons.1 apart).1 (.unsigned 1000) (by simp) (.signs 1000 0)

end SecurityKey.Cbor
