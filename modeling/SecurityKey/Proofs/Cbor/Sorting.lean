import Mathlib.Data.List.Pairwise
import SecurityKey.Proofs.Cbor.Reordering

/-!
# Putting maps in order is a stable sort

In a value that was put in order every map, at any depth, has the entries it had, in the order of their written keys;
entries with one key stand as they stood before. No other value has its maps sorted in that way, so nothing is left to
choose.
-/

namespace SecurityKey.Cbor

/-! ## Sorted entries -/

/-- Keys in the order of their written forms: shorter ones first, and those of one length byte by byte. -/
def InOrder (keys : List Value) : Prop :=
  keys.Pairwise fun a b => a.write.length < b.write.length ∨ a.write.length = b.write.length ∧ a.write ≤ b.write

/-- The entries with a written key. -/
def under (form : Bytes) (entries : List (Value × Value)) : List (Value × Value) :=
  entries.filter (·.1.write == form)

/-- The entries of a map in the order of their keys; those with the same key stand as they stood before. -/
structure StableSort (entries sorted : List (Value × Value)) : Prop where
  perm : sorted.Perm entries
  inOrder : InOrder (sorted.map Prod.fst)
  stable : ∀ form, under form sorted = under form entries

variable {entries sorted others : List (Value × Value)} {keys : List Value}

theorem inOrder_iff : InOrder keys ↔ keys.Pairwise fun a b => precedes a.write b.write = true := by
  simp only [InOrder, precedes_iff]

theorem under_cons_self (entry : Value × Value) (entries : List (Value × Value)) :
    under entry.1.write (entry :: entries) = entry :: under entry.1.write entries := by
  simp [under]

/-- Of two entries that lead sorted maps with the same entries under every key, neither precedes the other. -/
theorem write_eq_of_leading {entry other : Value × Value} (left : InOrder ((entry :: sorted).map Prod.fst))
    (right : InOrder ((other :: others).map Prod.fst))
    (same : ∀ form, under form (entry :: sorted) = under form (other :: others)) : entry.1.write = other.1.write := by
  have leads {lead follower : Value × Value} {rest : List (Value × Value)}
      (h : InOrder ((lead :: rest).map Prod.fst)) (mem : follower ∈ lead :: rest) :
      precedes lead.1.write follower.1.write = true := by
    rw [inOrder_iff, List.map_cons, List.pairwise_cons] at h
    rcases List.mem_cons.1 mem with rfl | mem
    · exact (Bool.or_self _).symm.trans (precedes_total _ _)
    · exact h.1 _ (List.mem_map_of_mem mem)
  have there : entry ∈ other :: others := by
    have mem := same entry.1.write ▸ under_cons_self entry sorted ▸ List.mem_cons_self
    exact (List.mem_filter.1 mem).1
  have back : other ∈ entry :: sorted := by
    have mem := (same other.1.write).symm ▸ under_cons_self other others ▸ List.mem_cons_self
    exact (List.mem_filter.1 mem).1
  exact precedes_antisymm (leads left back) (leads right there)

/-- Sorted maps with the same entries under every key are the same. -/
theorem eq_of_under_eq (left : InOrder (sorted.map Prod.fst)) (right : InOrder (others.map Prod.fst))
    (same : ∀ form, under form sorted = under form others) : sorted = others := by
  induction sorted generalizing others with
  | nil =>
      cases others with
      | nil => rfl
      | cons other others => simpa [under] using same other.1.write
  | cons entry sorted ih =>
      cases others with
      | nil => simpa [under] using same entry.1.write
      | cons other others =>
          have form := write_eq_of_leading left right same
          have first := same entry.1.write
          rw [under_cons_self, form, under_cons_self] at first
          obtain ⟨rfl, -⟩ := List.cons.inj first
          have later (form : Bytes) : under form sorted = under form others := by
            have whole := same form
            by_cases here : entry.1.write = form
            · subst here
              simpa [under_cons_self] using whole
            · simpa [under, here] using whole
          rw [ih (List.pairwise_cons.1 left).2 (List.pairwise_cons.1 right).2 later]

theorem StableSort.unique (left : StableSort entries sorted) (right : StableSort entries others) : sorted = others :=
  eq_of_under_eq left.inOrder right.inOrder fun form => (left.stable form).trans (right.stable form).symm

/-- Sorting leaves the entries with one written key in their order. -/
theorem filter_mergeSort (keyed : List KeyedEntry) (form : Bytes) :
    (keyed.mergeSort fun a b => precedes a.form b.form).filter (·.form == form) = keyed.filter (·.form == form) := by
  have alike : (keyed.filter (·.form == form)).Pairwise fun a b => precedes a.form b.form = true := by
    refine List.pairwise_of_forall_mem_list fun a ha b hb => ?_
    have fa : a.form = form := by simpa using (List.mem_filter.1 ha).2
    have fb : b.form = form := by simpa using (List.mem_filter.1 hb).2
    rw [fa, fb, precedes_iff]
    exact .inr ⟨rfl, List.le_refl form⟩
  have inside : (keyed.filter (·.form == form)).Sublist (keyed.mergeSort fun a b => precedes a.form b.form) := by
    refine List.sublist_mergeSort ?_ ?_ alike List.filter_sublist
    · intro a b c
      exact precedes_trans
    · intro a b
      exact precedes_total a.form b.form
  have kept := inside.filter (·.form == form)
  simp only [List.filter_filter, Bool.and_self] at kept
  exact (kept.eq_of_length ((List.mergeSort_perm keyed _).filter _).length_eq.symm).symm

theorem stableSort_sortEntries (entries : List (Value × Value)) :
    StableSort (entries.map fun entry => (entry.1, entry.2.order.1)) (sortEntries (entries.map keyed)) := by
  let pair (entry : KeyedEntry) : Value × Value := (entry.key, entry.value)
  have pairs : entries.map (fun entry => (entry.1, entry.2.order.1)) = (entries.map keyed).map pair := by
    simp [pair, keyed, Function.comp_def]
  have forms : ∀ entry ∈ entries.map keyed, entry.form = entry.key.write :=
    List.forall_mem_map.2 fun entry _ => rfl
  rw [pairs]
  generalize entries.map keyed = keyed at forms
  have forms' : ∀ entry ∈ keyed.mergeSort fun a b => precedes a.form b.form, entry.form = entry.key.write :=
    fun entry mem => forms entry ((List.mergeSort_perm keyed _).mem_iff.1 mem)
  have under_pair {some : List KeyedEntry} (h : ∀ entry ∈ some, entry.form = entry.key.write) (form : Bytes) :
      under form (some.map pair) = (some.filter (·.form == form)).map pair := by
    rw [under, List.filter_map]
    refine congrArg _ (List.filter_congr fun entry mem => ?_)
    simp [pair, h entry mem]
  refine ⟨sortEntries_perm_map keyed, ?_, fun form => ?_⟩
  · rw [inOrder_iff, sortEntries, List.pairwise_map, List.pairwise_map]
    refine (pairwise_mergeSort keyed).imp_of_mem fun ha hb before => ?_
    rwa [forms' _ ha, forms' _ hb] at before
  · rw [sortEntries, under_pair forms', under_pair forms, filter_mergeSort]

/-! ## Sorted values -/

/-- A value and what it is when each of its maps is sorted, at any depth of arrays, tags and map values. -/
inductive SortsTo : Value → Value → Prop where
  | atom {value : Value} : value.isAtom → SortsTo value value
  | array {items : List Value} (change : Value → Value) : (∀ item ∈ items, SortsTo item (change item)) →
      SortsTo (.array items) (.array (items.map change))
  | map {entries sorted : List (Value × Value)} (change : Value → Value) :
      (∀ entry ∈ entries, SortsTo entry.2 (change entry.2)) →
      StableSort (entries.map fun entry => (entry.1, change entry.2)) sorted → SortsTo (.map entries) (.map sorted)
  | tag (number : UInt64) {content other : Value} :
      SortsTo content other → SortsTo (.tag number content) (.tag number other)

variable {value result : Value}

theorem Orderable.sortsTo (h : Orderable value) : SortsTo value value.order.1 := by
  induction h with
  | atom atom =>
      rw [Value.order_atom atom]
      exact .atom atom
  | array each ih =>
      rw [Value.order_array fun item mem => Orderable.order (each item mem)]
      exact .array _ ih
  | @map entries keys values ih =>
      rw [Value.order_map keys fun entry mem => Orderable.order (values entry mem)]
      exact .map (·.order.1) ih (stableSort_sortEntries entries)
  | tag number inner ih =>
      rw [Value.order_tag number (Orderable.order inner)]
      exact .tag number ih

theorem SortsTo.reordered (h : SortsTo value result) : Reordered value result := by
  induction h with
  | atom => exact .refl _
  | array change _ ih => exact .items_map change ih
  | map change _ sort ih => exact .trans (.values_map change ih) (.entries sort.perm.symm)
  | tag number _ ih => exact .content number ih

theorem SortsTo.inOrder (h : SortsTo value result) : EachMap InOrder result := by
  induction h with
  | atom atom => exact .atom atom
  | array change _ ih => exact .array (List.forall_mem_map.2 ih)
  | map change _ sort ih =>
      refine .map sort.inOrder fun entry mem => ?_
      obtain ⟨before, inside, rfl⟩ := List.mem_map.1 (sort.perm.mem_iff.1 mem)
      exact ih before inside
  | tag number _ ih => exact .tag number ih

/-- A value is sorted in no other way than putting it in order sorts it. -/
theorem SortsTo.eq_order (h : SortsTo value result) (orderable : Orderable value) : result = value.order.1 := by
  induction h with
  | atom atom => rw [Value.order_atom atom]
  | @array items change _ ih =>
      have each := EachMap.of_array orderable
      rw [Value.order_array fun item mem => Orderable.order (each item mem)]
      exact congrArg _ (List.map_congr_left fun item mem => ih item mem (each item mem))
  | @map entries sorted change _ sort ih =>
      obtain ⟨keys, values⟩ := EachMap.of_map orderable
      rw [Value.order_map keys fun entry mem => Orderable.order (values entry mem)]
      have same : (entries.map fun entry => (entry.1, change entry.2)) =
          entries.map fun entry => (entry.1, entry.2.order.1) :=
        List.map_congr_left fun entry mem => congrArg _ (ih entry mem (values entry mem))
      rw [same] at sort
      rw [sort.unique (stableSort_sortEntries entries)]
  | @tag number content other _ ih =>
      have inner : Orderable content := EachMap.of_tag orderable
      rw [Value.order_tag number inner.order, ih inner]

/-! ## Values in order -/

theorem StableSort.refl (inOrder : InOrder (entries.map Prod.fst)) : StableSort entries entries :=
  ⟨.refl entries, inOrder, fun _ => rfl⟩

/-- A value whose maps are in order is sorted as it is. -/
theorem sortsTo_of_inOrder (h : EachMap InOrder value) : SortsTo value value := by
  induction h with
  | atom atom => exact .atom atom
  | array _ ih => simpa using SortsTo.array id ih
  | map here _ ih => exact .map id ih (by simpa using StableSort.refl here)
  | tag number _ ih => exact .tag number ih

theorem ordered_eq_ok_iff : value.ordered = .ok result ↔ Orderable value ∧ SortsTo value result := by
  constructor
  · intro h
    have orderable : Orderable value := by
      refine orderable_of_order value ?_
      unfold Value.ordered at h
      split at h
      · rename_i same
        rw [same]
      · cases h
    cases h.symm.trans (Orderable.ordered orderable)
    exact ⟨orderable, Orderable.sortsTo orderable⟩
  · rintro ⟨orderable, sorts⟩
    rw [sorts.eq_order orderable, Orderable.ordered orderable]

/-- Unsigned keys in order ascend. -/
theorem ascending_of_inOrder {numbers : List UInt64} (h : InOrder (numbers.map .unsigned)) :
    numbers.Pairwise (· ≤ ·) := by
  rw [inOrder_iff, List.pairwise_map] at h
  refine h.imp fun {m n} before => ?_
  by_contra greater
  have less : n.toNat ≤ m.toNat := Nat.le_of_lt (UInt64.lt_iff_toNat_lt.1 (UInt64.not_le.1 greater))
  have same := precedes_antisymm before (precedes_head (by decide) m.toNat_lt less)
  cases (Sized.unsigned m).write_inj (.unsigned n) same
  exact greater (UInt64.le_refl m)

/-! ## Refused keys -/

/-- A key of a map in a value, at any depth, that has no place in the order. -/
structure Refused (refused value : Value) : Prop where
  notKey : refused.isKey = false
  inside : ¬EachMap (fun keys => refused ∉ keys) value

theorem exists_refused_item {items : List Value} {refused : Value} (h : (orderItems items).2 = some refused) :
    ∃ item ∈ items, item.order.2 = some refused := by
  induction items with
  | nil => cases h
  | cons item items ih =>
      rw [orderItems] at h
      rcases found : item.order with ⟨ordered, _ | first⟩
      · rw [found] at h
        obtain ⟨later, mem, same⟩ := ih h
        exact ⟨later, by simp [mem], same⟩
      · rw [found] at h
        cases h
        exact ⟨item, by simp, by rw [found]⟩

theorem exists_refused_entry {refused : Value} (h : orderEntries entries = .error refused) :
    ∃ entry ∈ entries, entry.2.order.2 = some refused ∨ entry.1 = refused ∧ refused.isKey = false := by
  induction entries with
  | nil => cases h
  | cons entry entries ih =>
      obtain ⟨key, value⟩ := entry
      rw [orderEntries] at h
      rcases found : value.order with ⟨ordered, _ | first⟩
      · rw [found] at h
        cases form : key.keyForm? with
        | none =>
            simp only [form] at h
            cases h
            refine ⟨_, List.mem_cons_self, .inr ⟨rfl, ?_⟩⟩
            rw [Bool.eq_false_iff]
            intro isKey
            rw [Value.keyForm?_eq isKey] at form
            cases form
        | some _ =>
            simp only [form] at h
            cases rest : orderEntries entries with
            | error later =>
                rw [rest] at h
                cases h
                obtain ⟨entry, mem, why⟩ := ih rest
                exact ⟨entry, by simp [mem], why⟩
            | ok _ => rw [rest] at h; cases h
      · rw [found] at h
        cases h
        exact ⟨_, List.mem_cons_self, .inl (by rw [found])⟩

theorem refused_of_order : (value refused : Value) → value.order.2 = some refused → Refused refused value
  | .array items, refused, h => by
      obtain ⟨item, mem, h⟩ := exists_refused_item h
      have inner := refused_of_order item refused h
      exact ⟨inner.notKey, fun each => inner.inside (each.of_array item mem)⟩
  | .map entries, refused, h => by
      rw [Value.order] at h
      cases ordered : orderEntries entries with
      | ok keyed => rw [ordered] at h; cases h
      | error first =>
          rw [ordered] at h
          cases h
          obtain ⟨⟨key, value⟩, mem, h | ⟨rfl, notKey⟩⟩ := exists_refused_entry ordered
          · have entry : sizeOf (key, value) < sizeOf entries := List.sizeOf_lt_of_mem mem
            have smaller : sizeOf value < 1 + sizeOf entries := by
              simp at entry
              omega
            have inner := refused_of_order value refused h
            exact ⟨inner.notKey, fun each => inner.inside (each.of_map.2 _ mem)⟩
          · exact ⟨notKey, fun each => each.of_map.1 (List.mem_map_of_mem mem)⟩
  | .tag number content, refused, h => by
      have inner := refused_of_order content refused h
      exact ⟨inner.notKey, fun each => inner.inside each.of_tag⟩
  | .unsigned _, _, h | .negative _, _, h | .bytes _, _, h | .text _, _, h | .bool _, _, h | .null, _, h
  | .float _, _, h => by cases h

/-- A value without a place in the order for some key is refused with one of these. -/
theorem exists_refused (h : ¬Orderable value) : ∃ refused, Refused refused value ∧ value.ordered = .error refused := by
  rcases found : value.order with ⟨ordered, _ | refused⟩
  · exact absurd (orderable_of_order value (by rw [found])) h
  · exact ⟨refused, refused_of_order value refused (by rw [found]), by rw [Value.ordered, found]⟩

/-! ## Stable sorting at every depth -/

/-- Putting a value in order succeeds exactly when its maps, at any depth, have only keys with a place in the order, and
is refused with such a key otherwise. The result is the value with each map sorted stably, and nothing else; it stays as
it is when it is put in order again, and unsigned keys ascend in it. -/
theorem ordering_is_stable_sort (value : Value) :
    ((∃ result, value.ordered = .ok result) ↔ Orderable value) ∧
      (¬Orderable value → ∃ refused, Refused refused value ∧ value.ordered = .error refused ∧
        Request.canonical value = .error (.encoding (.mapKey refused))) ∧
      (∀ result, value.ordered = .ok result ↔ Orderable value ∧ SortsTo value result) ∧
      ∀ result, value.ordered = .ok result → Reordered value result ∧ EachMap InOrder result ∧
        result.ordered = .ok result ∧
        EachMap (fun keys => ∀ numbers : List UInt64, keys = numbers.map .unsigned → numbers.Pairwise (· ≤ ·))
          result := by
  refine ⟨⟨?_, fun orderable => ⟨_, Orderable.ordered orderable⟩⟩, fun h => ?_, fun _ => ordered_eq_ok_iff,
    fun result h => ?_⟩
  · rintro ⟨result, h⟩
    exact (ordered_eq_ok_iff.1 h).1
  · obtain ⟨refused, inside, failed⟩ := exists_refused h
    refine ⟨refused, inside, failed, ?_⟩
    rw [Request.canonical, Value.canonical, failed]
    rfl
  · obtain ⟨orderable, sorts⟩ := ordered_eq_ok_iff.1 h
    have reordered := sorts.reordered
    have inOrder := sorts.inOrder
    have again : Orderable result :=
      reordered.eachMap (fun perm keys key mem => keys key (perm.mem_iff.2 mem)) orderable
    refine ⟨reordered, inOrder, ordered_eq_ok_iff.2 ⟨again, sortsTo_of_inOrder inOrder⟩, inOrder.imp ?_⟩
    rintro _ ascends numbers rfl
    exact ascending_of_inOrder ascends

/-- A map with two entries under one key, and with keys of several widths and types. -/
def shuffled : Value := .array [.map [
  (.text "b", .null),
  (.unsigned 300, .tag 24 (.map [(.unsigned 24, .null), (.unsigned 8, .null)])),
  (.unsigned 24, .bool true),
  (.text "b", .bool false)]]

/-- The same map in order. -/
def sortedOut : Value := .array [.map [
  (.unsigned 24, .bool true),
  (.text "b", .null),
  (.text "b", .bool false),
  (.unsigned 300, .tag 24 (.map [(.unsigned 8, .null), (.unsigned 24, .null)]))]]

/-- A map whose value has a list for a key. -/
def listKeyed : Value := .map [(.unsigned 1, .tag 24 (.map [(.text "b", .null), (.array [], .null)]))]

theorem ordering_of_shuffled : shuffled.ordered = .ok sortedOut ∧ SortsTo shuffled sortedOut ∧
    sortedOut.ordered = .ok sortedOut ∧ ¬Orderable listKeyed ∧
    Request.canonical listKeyed = .error (.encoding (.mapKey (.array []))) := by
  obtain ⟨-, -, arranges, keeps⟩ := ordering_is_stable_sort shuffled
  obtain ⟨-, refuses, -, -⟩ := ordering_is_stable_sort listKeyed
  have letter : (Value.text "b").keyForm? = some [0x61, 0x62] := rfl
  have small : (Value.unsigned 8).keyForm? = some [0x08] := rfl
  have wide : (Value.unsigned 24).keyForm? = some [0x18, 0x18] := rfl
  have wider : (Value.unsigned 300).keyForm? = some [0x19, 0x01, 0x2C] := rfl
  have sorted : shuffled.ordered = .ok sortedOut := by
    simp +decide [shuffled, sortedOut, Value.ordered, Value.order, orderItems, orderEntries, letter, small, wide, wider,
      sortEntries, precedes, List.mergeSort, List.MergeSort.Internal.splitInTwo]
  have unorderable : ¬Orderable listKeyed := by
    intro orderable
    have inner := EachMap.of_tag ((EachMap.of_map orderable).2 _ List.mem_cons_self)
    have isKey := (EachMap.of_map inner).1 (.array []) (by simp)
    cases isKey
  have named : listKeyed.ordered = .error (.array []) := rfl
  obtain ⟨refused, -, failed, canonical⟩ := refuses unorderable
  cases failed.symm.trans named
  exact ⟨sorted, ((arranges sortedOut).1 sorted).2, (keeps sortedOut sorted).2.2.1, unorderable, canonical⟩

end SecurityKey.Cbor
