import SecurityKey.Proofs.Cbor.Sorting

/-!
# What a refused key leaves

A value is put in order in place, and a map is taken apart before all of its keys were looked at. When a key is refused,
the outermost map around it has lost all its entries; the rest of the value is as it was, but for the order of entries.
-/

namespace SecurityKey.Cbor

/-! ## Entries of a value -/

mutual

/-- The number of entries of the maps in a value, at any depth of arrays, tags and map values. -/
def Value.entryCount : Value → Nat
  | .array items => itemsEntryCount items
  | .map entries => entriesCount entries
  | .tag _ content => content.entryCount
  | _ => 0

/-- The number of entries of the maps in the items of an array. -/
def itemsEntryCount : List Value → Nat
  | [] => 0
  | item :: items => item.entryCount + itemsEntryCount items

/-- The number of entries of a map, with those of the maps in its values. -/
def entriesCount : List (Value × Value) → Nat
  | [] => 0
  | (_, value) :: entries => value.entryCount + 1 + entriesCount entries

end

/-- A map in a value, not inside of another map, loses all its entries; the key `refused` is somewhere in it. -/
inductive Emptied (refused : Value) : Value → Value → Prop where
  | map {entries : List (Value × Value)} : Refused refused (.map entries) → Emptied refused (.map entries) (.map [])
  | item (before after : List Value) {first second : Value} : Emptied refused first second →
      Emptied refused (.array (before ++ first :: after)) (.array (before ++ second :: after))
  | content (number : UInt64) {first second : Value} : Emptied refused first second →
      Emptied refused (.tag number first) (.tag number second)

variable {value left refused : Value} {items : List Value} {entries : List (Value × Value)}

theorem itemsEntryCount_append (items others : List Value) :
    itemsEntryCount (items ++ others) = itemsEntryCount items + itemsEntryCount others := by
  induction items with
  | nil => exact (Nat.zero_add _).symm
  | cons item items ih => rw [List.cons_append, itemsEntryCount, itemsEntryCount, ih, Nat.add_assoc]

theorem entriesCount_append (entries others : List (Value × Value)) :
    entriesCount (entries ++ others) = entriesCount entries + entriesCount others := by
  induction entries with
  | nil => exact (Nat.zero_add _).symm
  | cons entry entries ih => rw [List.cons_append, entriesCount, entriesCount, ih, ← Nat.add_assoc]

theorem entriesCount_perm {others : List (Value × Value)} (perm : entries.Perm others) :
    entriesCount entries = entriesCount others := by
  induction perm with
  | nil => rfl
  | cons entry _ ih => rw [entriesCount, entriesCount, ih]
  | swap entry other entries =>
      simp only [entriesCount]
      omega
  | trans _ _ first second => exact first.trans second

theorem Reordered.entryCount_eq (h : Reordered value left) : value.entryCount = left.entryCount := by
  induction h with
  | refl => rfl
  | trans _ _ first second => exact first.trans second
  | entries perm => exact entriesCount_perm perm
  | value before key after _ ih => simp only [Value.entryCount, entriesCount_append, entriesCount, ih]
  | item before after _ ih => simp only [Value.entryCount, itemsEntryCount_append, itemsEntryCount, ih]
  | content number _ ih => exact ih

theorem Refused.entryCount_pos (h : Refused refused (.map entries)) : 0 < (Value.map entries).entryCount := by
  cases entries with
  | nil => exact absurd (.map (by simp) (by simp)) h.inside
  | cons entry entries =>
      simp only [Value.entryCount, entriesCount]
      omega

theorem Emptied.entryCount_lt (h : Emptied refused value left) : left.entryCount < value.entryCount := by
  induction h with
  | map inside => exact inside.entryCount_pos
  | item before after _ ih => simpa [Value.entryCount, itemsEntryCount_append, itemsEntryCount] using ih
  | content number _ ih => exact ih

/-! ## What is left -/

/-- The items in front of one with a refused key are in order, and those behind it were not looked at. -/
theorem split_of_refused_item (h : (orderItems items).2 = some refused) : ∃ before item after,
    items = before ++ item :: after ∧ (∀ item ∈ before, item.order.2 = none) ∧ item.order.2 = some refused ∧
      (orderItems items).1 = before.map (·.order.1) ++ item.order.1 :: after := by
  induction items with
  | nil => cases h
  | cons item items ih =>
      rw [orderItems] at h ⊢
      rcases found : item.order with ⟨ordered, _ | first⟩
      · rw [found] at h
        obtain ⟨before, culprit, after, rfl, accepted, here, left⟩ := ih h
        refine ⟨item :: before, culprit, after, rfl, ?_, here, ?_⟩
        · exact List.forall_mem_cons.2 ⟨by rw [found], accepted⟩
        · simp [left, found]
      · rw [found] at h
        cases h
        exact ⟨[], item, items, rfl, by simp, by rw [found], by simp [found]⟩

/-- Where a key is refused, the value is left with one map emptied that had the key in it. -/
theorem exists_emptied_of_order : (value : Value) → value.order.2 = some refused →
    ∃ reordered, Reordered value reordered ∧ Emptied refused reordered value.order.1
  | .array items, h => by
      obtain ⟨before, item, after, split, accepted, here, left⟩ := split_of_refused_item h
      have mem : item ∈ items := by simp [split]
      obtain ⟨reordered, same, emptied⟩ := exists_emptied_of_order item here
      have front : Reordered (.array items) (.array (before.map (·.order.1) ++ item :: after)) := by
        rw [split]
        exact .items_front _ (fun item mem => (orderable_of_order item (accepted item mem)).reordered) _
      have result : (Value.array items).order.1 = .array (before.map (·.order.1) ++ item.order.1 :: after) := by
        rw [← left]
        rfl
      rw [result]
      exact ⟨_, .trans front (.item _ after same), .item _ after emptied⟩
  | .map entries, h => by
      have inside := refused_of_order (.map entries) refused h
      refine ⟨.map entries, .refl _, ?_⟩
      rw [Value.order] at h ⊢
      cases ordered : orderEntries entries with
      | ok keyed => rw [ordered] at h; cases h
      | error first => exact .map inside
  | .tag number content, h => by
      obtain ⟨reordered, same, emptied⟩ := exists_emptied_of_order content h
      exact ⟨.tag number reordered, .content number same, .content number emptied⟩
  | .unsigned _, h | .negative _, h | .bytes _, h | .text _, h | .bool _, h | .null, h | .float _, h => by cases h

/-- A value that was put in order differs from what it was in nothing but the order of map entries exactly when no key
was refused. -/
theorem reordered_order_iff : Reordered value value.order.1 ↔ value.order.2 = none := by
  refine ⟨fun same => ?_, fun accepted => (orderable_of_order value accepted).reordered⟩
  rw [Option.eq_none_iff_forall_ne_some]
  intro refused failed
  obtain ⟨reordered, kept, emptied⟩ := exists_emptied_of_order value failed
  have fewer := emptied.entryCount_lt
  rw [← kept.entryCount_eq, same.entryCount_eq] at fewer
  exact Nat.lt_irrefl _ fewer

/-- Putting a value in order keeps its entries exactly when it succeeds, which it does when the keys of all maps are
integers, texts and byte strings. When it fails, a value is left that has fewer entries than before: but for the order
of entries it is the one there was, with one map emptied that had the refused key in it. -/
theorem ordering_keeps_entries_iff (value : Value) :
    (Reordered value value.order.1 ↔ value.order.2 = none) ∧ (value.order.2 = none ↔ Orderable value) ∧
      ∀ refused, value.order.2 = some refused → Refused refused value ∧
        value.order.1.entryCount < value.entryCount ∧
        ∃ reordered, Reordered value reordered ∧ Emptied refused reordered value.order.1 := by
  refine ⟨reordered_order_iff, ⟨orderable_of_order value, Orderable.order⟩, fun refused failed => ?_⟩
  obtain ⟨reordered, kept, emptied⟩ := exists_emptied_of_order value failed
  refine ⟨refused_of_order value refused failed, ?_, reordered, kept, emptied⟩
  rw [kept.entryCount_eq]
  exact emptied.entryCount_lt

/-- Maps out of order, of which the one in the middle has a list for a key deep inside. -/
def spoiled : Value := .array [
  .map [(.unsigned 2, .null), (.unsigned 1, .null)],
  .tag 24 (.map [(.text "b", .map [(.array [], .null)]), (.unsigned 7, .bool true)]),
  .map [(.unsigned 2, .null), (.unsigned 1, .null)]]

/-- What is left of them. -/
def remains : Value := .array [
  .map [(.unsigned 1, .null), (.unsigned 2, .null)],
  .tag 24 (.map []),
  .map [(.unsigned 2, .null), (.unsigned 1, .null)]]

theorem ordering_of_spoiled : spoiled.order = (remains, some (.array [])) ∧ Refused (.array []) spoiled ∧
    remains.entryCount = 4 ∧ spoiled.entryCount = 7 ∧ ¬Reordered spoiled remains ∧
    (∃ reordered, Reordered spoiled reordered ∧ Emptied (.array []) reordered remains) ∧
    Reordered shuffled shuffled.order.1 := by
  have one : (Value.unsigned 1).keyForm? = some [0x01] := rfl
  have two : (Value.unsigned 2).keyForm? = some [0x02] := rfl
  have list : (Value.array []).keyForm? = none := rfl
  have failed : spoiled.order = (remains, some (.array [])) := by
    simp +decide [spoiled, remains, Value.order, orderItems, orderEntries, one, two, list, sortEntries, precedes,
      List.mergeSort, List.MergeSort.Internal.splitInTwo]
  obtain ⟨keeps, -, loses⟩ := ordering_keeps_entries_iff spoiled
  rw [failed] at keeps loses
  obtain ⟨inside, fewer, emptied⟩ := loses (.array []) rfl
  obtain ⟨keeps', -, -⟩ := ordering_keeps_entries_iff shuffled
  have accepted : shuffled.order.2 = none := rfl
  refine ⟨failed, inside, rfl, rfl, fun same => ?_, emptied, keeps'.2 accepted⟩
  cases keeps.1 same

/-- A map with a list for a key beside another one. -/
def partlyKeyed : Value := .map [(.unsigned 1, .text "a"), (.array [], .null)]

/-- The entry under a key that was not refused is lost with the other one. -/
theorem refused_key_empties_map : partlyKeyed.order = (.map [], some (.array [])) ∧
    ¬Reordered partlyKeyed partlyKeyed.order.1 := by
  have failed : partlyKeyed.order = (.map [], some (.array [])) := rfl
  refine ⟨failed, fun same => ?_⟩
  rw [failed] at same
  have none : 2 = 0 := same.entryCount_eq
  cases none

end SecurityKey.Cbor
