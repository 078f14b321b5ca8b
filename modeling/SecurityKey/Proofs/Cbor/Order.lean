import Mathlib.Data.List.Nodup
import SecurityKey.Proofs.Cbor.Head

/-!
# Putting maps in order

A value can be put in order when every map in it has only keys with a place in the order. The entries of each map are
then sorted by their written keys, and those of a map with distinct keys can be sorted in one way only.
-/

namespace SecurityKey.Cbor

/-! ## Maps in a value -/

/-- Whether a value is an integer, a text or a byte string. -/
def Value.isKey : Value → Bool
  | .unsigned _ | .negative _ | .bytes _ | .text _ => true
  | _ => false

/-- Whether a value has no parts that are values. -/
def Value.isAtom : Value → Bool
  | .array _ | .map _ | .tag _ _ => false
  | _ => true

/-- The keys of every map in a value, at any depth of arrays, tags and map values, are as `p` says. -/
inductive EachMap (p : List Value → Prop) : Value → Prop where
  | atom {value : Value} (atom : value.isAtom) : EachMap p value
  | array {items : List Value} (each : ∀ item ∈ items, EachMap p item) : EachMap p (.array items)
  | map {entries : List (Value × Value)} (here : p (entries.map Prod.fst))
      (values : ∀ entry ∈ entries, EachMap p entry.2) : EachMap p (.map entries)
  | tag (number : UInt64) {content : Value} (inner : EachMap p content) : EachMap p (.tag number content)

/-- The keys of every map are integers, texts and byte strings. -/
def Orderable (value : Value) : Prop :=
  EachMap (fun keys => ∀ key ∈ keys, key.isKey) value

variable {value : Value} {items : List Value} {entries : List (Value × Value)} {p q : List Value → Prop}

theorem EachMap.imp (weaken : ∀ keys, p keys → q keys) (h : EachMap p value) : EachMap q value := by
  induction h with
  | atom atom => exact .atom atom
  | array _ ih => exact .array ih
  | map here _ ih => exact .map (weaken _ here) ih
  | tag number _ ih => exact .tag number ih

theorem EachMap.of_array (h : EachMap p (.array items)) : ∀ item ∈ items, EachMap p item := by
  cases h with
  | atom atom => simp [Value.isAtom] at atom
  | array each => exact each

theorem EachMap.of_map (h : EachMap p (.map entries)) :
    p (entries.map Prod.fst) ∧ ∀ entry ∈ entries, EachMap p entry.2 := by
  cases h with
  | atom atom => simp [Value.isAtom] at atom
  | map here values => exact ⟨here, values⟩

theorem EachMap.of_tag {number : UInt64} (h : EachMap p (.tag number value)) : EachMap p value := by
  cases h with
  | atom atom => simp [Value.isAtom] at atom
  | tag _ inner => exact inner

/-! ## Parts in order -/

/-- An entry whose value is put in order, with its key written. -/
def keyed (entry : Value × Value) : KeyedEntry :=
  ⟨entry.1.write, entry.1, entry.2.order.1⟩

theorem Value.keyForm?_eq {key : Value} (h : key.isKey) : key.keyForm? = some key.write := by
  cases key <;> simp_all [Value.isKey, Value.keyForm?]

theorem orderItems_eq (h : ∀ item ∈ items, item.order.2 = none) :
    orderItems items = (items.map (·.order.1), none) := by
  induction items with
  | nil => rfl
  | cons item items ih =>
      have first : item.order = (item.order.1, none) := by rw [← h item (by simp)]
      rw [orderItems, first, ih fun item mem => h item (by simp [mem])]
      rfl

theorem orderEntries_eq (keys : ∀ key ∈ entries.map Prod.fst, key.isKey)
    (h : ∀ entry ∈ entries, entry.2.order.2 = none) : orderEntries entries = .ok (entries.map keyed) := by
  induction entries with
  | nil => rfl
  | cons entry entries ih =>
      obtain ⟨key, value⟩ := entry
      have first : value.order = (value.order.1, none) := by rw [← h (key, value) (by simp)]
      simp only [List.map_cons, List.forall_mem_cons] at keys
      rw [orderEntries, first]
      simp only [Value.keyForm?_eq keys.1, ih keys.2 fun entry mem => h entry (by simp [mem]), List.map_cons, keyed]

theorem Value.order_atom (h : value.isAtom) : value.order = (value, none) := by
  cases value <;> first | rfl | simp [Value.isAtom] at h

theorem Value.order_array (h : ∀ item ∈ items, item.order.2 = none) :
    (Value.array items).order = (.array (items.map (·.order.1)), none) := by
  rw [Value.order, orderItems_eq h]

theorem Value.order_map (keys : ∀ key ∈ entries.map Prod.fst, key.isKey)
    (h : ∀ entry ∈ entries, entry.2.order.2 = none) :
    (Value.map entries).order = (.map (sortEntries (entries.map keyed)), none) := by
  rw [Value.order, orderEntries_eq keys h]

theorem Value.order_tag (number : UInt64) (h : value.order.2 = none) :
    (Value.tag number value).order = (.tag number value.order.1, none) := by
  rw [Value.order, show value.order = (value.order.1, none) by rw [← h]]

/-- No key is refused in a value that can be put in order. -/
theorem Orderable.order (h : Orderable value) : value.order.2 = none := by
  induction h with
  | atom atom => rw [Value.order_atom atom]
  | array _ ih => rw [Value.order_array ih]
  | map keys _ ih => rw [Value.order_map keys ih]
  | tag number _ ih => rw [Value.order_tag number ih]

theorem Orderable.ordered (h : Orderable value) : value.ordered = .ok value.order.1 := by
  unfold Value.ordered
  rw [show value.order = (value.order.1, none) by rw [← h.order]]

/-! ## What can be put in order -/

theorem Value.isKey_of_keyForm? {key : Value} {form : Bytes} (h : key.keyForm? = some form) : key.isKey := by
  cases key <;> simp_all [Value.isKey, Value.keyForm?]

theorem order_of_mem_items (h : (orderItems items).2 = none) : ∀ item ∈ items, item.order.2 = none := by
  induction items with
  | nil => simp
  | cons item items ih =>
      rw [orderItems] at h
      rcases found : item.order with ⟨ordered, _ | refused⟩
      · rw [found] at h
        exact List.forall_mem_cons.2 ⟨by rw [found], ih h⟩
      · rw [found] at h
        cases h

theorem order_of_mem_entries {keyed : List KeyedEntry} (h : orderEntries entries = .ok keyed) :
    ∀ entry ∈ entries, entry.1.isKey ∧ entry.2.order.2 = none := by
  induction entries generalizing keyed with
  | nil => simp
  | cons entry entries ih =>
      obtain ⟨key, value⟩ := entry
      rw [orderEntries] at h
      rcases found : value.order with ⟨ordered, _ | refused⟩
      · rw [found] at h
        cases form : key.keyForm? with
        | none => simp [form] at h
        | some _ =>
            cases rest : orderEntries entries with
            | error refused => simp [form, rest] at h
            | ok _ => exact List.forall_mem_cons.2 ⟨⟨Value.isKey_of_keyForm? form, by rw [found]⟩, ih rest⟩
      · rw [found] at h
        cases h

/-- A value in which no key is refused has no key without a place in the order. -/
theorem orderable_of_order : (value : Value) → value.order.2 = none → Orderable value
  | .array items, h => .array fun item mem => orderable_of_order item (order_of_mem_items h item mem)
  | .map entries, h => by
      rw [Value.order] at h
      cases ordered : orderEntries entries with
      | error refused => rw [ordered] at h; cases h
      | ok keyed =>
          have each := order_of_mem_entries ordered
          refine .map (List.forall_mem_map.2 fun entry mem => (each entry mem).1) fun (key, value) mem => ?_
          have entry : sizeOf (key, value) < sizeOf entries := List.sizeOf_lt_of_mem mem
          have smaller : sizeOf value < 1 + sizeOf entries := by
            simp at entry
            omega
          exact orderable_of_order value (each (key, value) mem).2
  | .tag number content, h => .tag number (orderable_of_order content h)
  | .unsigned _, _ | .negative _, _ | .bytes _, _ | .text _, _ | .bool _, _ | .null, _ | .float _, _ => .atom rfl

/-! ## The order of keys -/

theorem precedes_iff {a b : Bytes} : precedes a b = true ↔ a.length < b.length ∨ a.length = b.length ∧ a ≤ b := by
  simp [precedes]

theorem precedes_trans {a b c : Bytes} (ab : precedes a b = true) (bc : precedes b c = true) :
    precedes a c = true := by
  rw [precedes_iff] at *
  rcases ab with shorter | ⟨same, le⟩ <;> rcases bc with shorter' | ⟨same', le'⟩
  · exact .inl (Nat.lt_trans shorter shorter')
  · exact .inl (same' ▸ shorter)
  · exact .inl (same ▸ shorter')
  · exact .inr ⟨same.trans same', List.le_trans le le'⟩

theorem precedes_total (a b : Bytes) : (precedes a b || precedes b a) = true := by
  rw [Bool.or_eq_true, precedes_iff, precedes_iff]
  rcases Nat.lt_trichotomy a.length b.length with shorter | same | longer
  · exact .inl (.inl shorter)
  · exact (List.le_total a b).imp (fun le => .inr ⟨same, le⟩) fun le => .inr ⟨same.symm, le⟩
  · exact .inr (.inl longer)

theorem precedes_antisymm {a b : Bytes} (ab : precedes a b = true) (ba : precedes b a = true) : a = b := by
  rw [precedes_iff] at ab ba
  have same : a.length = b.length := by omega
  exact List.le_antisymm (ab.resolve_left (by omega)).2 (ba.resolve_left (by omega)).2

/-! ## Sorting -/

variable {sorted others : List KeyedEntry}

theorem pairwise_mergeSort (others : List KeyedEntry) :
    (others.mergeSort fun a b => precedes a.form b.form).Pairwise fun a b => precedes a.form b.form = true := by
  refine List.pairwise_mergeSort ?_ ?_ others
  · intro a b c
    exact precedes_trans
  · intro a b
    exact precedes_total a.form b.form

/-- Entries under distinct keys are sorted in the same way whatever order they had. -/
theorem sortEntries_perm (perm : sorted.Perm others) (distinct : (sorted.map (·.form)).Nodup) :
    sortEntries sorted = sortEntries others := by
  have same : (sorted.mergeSort fun a b => precedes a.form b.form) =
      others.mergeSort fun a b => precedes a.form b.form := by
    refine List.Perm.eq_of_pairwise ?_ (pairwise_mergeSort sorted) (pairwise_mergeSort others)
      (((List.mergeSort_perm sorted _).trans perm).trans (List.mergeSort_perm others _).symm)
    intro a b ha hb before after
    have ha := (List.mergeSort_perm sorted _).mem_iff.1 ha
    have hb := perm.mem_iff.2 ((List.mergeSort_perm others _).mem_iff.1 hb)
    exact List.inj_on_of_nodup_map distinct ha hb (precedes_antisymm before after)
  rw [sortEntries, sortEntries, same]

theorem sortEntries_perm_map (others : List KeyedEntry) :
    (sortEntries others).Perm (others.map fun entry => (entry.key, entry.value)) :=
  (List.mergeSort_perm others _).map _

end SecurityKey.Cbor
