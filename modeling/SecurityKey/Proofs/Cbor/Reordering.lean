import SecurityKey.Proofs.Cbor.Unambiguous
import SecurityKey.Proofs.Request

/-!
# The canonical form is a normal form

Two values whose maps have distinct keys share their canonical form exactly when they differ in nothing but the order of
map entries.
-/

namespace SecurityKey.Cbor

/-! ## Values up to the order of map entries -/

/-- Values that differ in the order of map entries only, at any depth of arrays, tags and map values. -/
inductive Reordered : Value → Value → Prop where
  | refl (value : Value) : Reordered value value
  | trans {first second third : Value} : Reordered first second → Reordered second third → Reordered first third
  | entries {entries others : List (Value × Value)} : entries.Perm others → Reordered (.map entries) (.map others)
  | value (before : List (Value × Value)) (key : Value) (after : List (Value × Value)) {first second : Value} :
      Reordered first second →
      Reordered (.map (before ++ (key, first) :: after)) (.map (before ++ (key, second) :: after))
  | item (before after : List Value) {first second : Value} :
      Reordered first second → Reordered (.array (before ++ first :: after)) (.array (before ++ second :: after))
  | content (number : UInt64) {first second : Value} :
      Reordered first second → Reordered (.tag number first) (.tag number second)

namespace Reordered

variable {v w : Value} {p : List Value → Prop}

theorem symm (h : Reordered v w) : Reordered w v := by
  induction h with
  | refl value => exact .refl value
  | trans _ _ first second => exact .trans second first
  | entries perm => exact .entries perm.symm
  | value before key after _ ih => exact .value before key after ih
  | item before after _ ih => exact .item before after ih
  | content number _ ih => exact .content number ih

/-- Items of an array that differ in the order of map entries only, in front of others. -/
theorem items_front (change : Value → Value) {items : List Value} (each : ∀ item ∈ items, Reordered item (change item))
    (rest : List Value) : Reordered (.array (items ++ rest)) (.array (items.map change ++ rest)) := by
  -- The items further in front are those that were changed already.
  have from_ (before : List Value) :
      Reordered (.array (before ++ (items ++ rest))) (.array (before ++ (items.map change ++ rest))) := by
    induction items generalizing before with
    | nil => exact .refl _
    | cons item items ih =>
        have later := ih (fun item mem => each item (by simp [mem])) (before ++ [change item])
        rw [List.append_assoc, List.append_assoc] at later
        exact .trans (.item before (items ++ rest) (each item (by simp))) later
  exact from_ []

theorem items_map (change : Value → Value) {items : List Value} (each : ∀ item ∈ items, Reordered item (change item)) :
    Reordered (.array items) (.array (items.map change)) := by
  simpa using items_front change each []

theorem values_map (change : Value → Value) {entries : List (Value × Value)}
    (each : ∀ entry ∈ entries, Reordered entry.2 (change entry.2)) :
    Reordered (.map entries) (.map (entries.map fun entry => (entry.1, change entry.2))) := by
  have from_ (before : List (Value × Value)) : Reordered (.map (before ++ entries))
      (.map (before ++ entries.map fun entry => (entry.1, change entry.2))) := by
    induction entries generalizing before with
    | nil => exact .refl _
    | cons entry entries ih =>
        have later := ih (fun entry mem => each entry (by simp [mem])) (before ++ [(entry.1, change entry.2)])
        rw [List.append_assoc, List.append_assoc] at later
        exact .trans (.value before entry.1 entries (each entry (by simp))) later
  exact from_ []

theorem sized (h : Reordered v w) (hv : Sized v) : Sized w := by
  induction h with
  | refl => exact hv
  | trans _ _ first second => exact second (first hv)
  | entries perm =>
      cases hv with
      | map size keys values =>
          exact .map (perm.length_eq ▸ size) (fun entry mem => keys entry (perm.mem_iff.2 mem))
            fun entry mem => values entry (perm.mem_iff.2 mem)
  | value before key after _ ih =>
      cases hv with
      | map size keys values =>
          simp only [List.forall_mem_append, List.forall_mem_cons] at keys values
          refine .map (by simpa using size) ?_ ?_ <;> simp only [List.forall_mem_append, List.forall_mem_cons]
          · exact keys
          · exact ⟨values.1, ih values.2.1, values.2.2⟩
  | item before after _ ih =>
      cases hv with
      | array size each =>
          simp only [List.forall_mem_append, List.forall_mem_cons] at each
          refine .array (by simpa using size) ?_
          simp only [List.forall_mem_append, List.forall_mem_cons]
          exact ⟨each.1, ih each.2.1, each.2.2⟩
  | content number _ ih =>
      cases hv with
      | tag _ inner => exact .tag number (ih inner)

/-- A property of the keys of every map is kept when it does not depend on their order. -/
theorem eachMap (unordered : ∀ {keys others : List Value}, keys.Perm others → p keys → p others)
    (h : Reordered v w) (hv : EachMap p v) : EachMap p w := by
  induction h with
  | refl => exact hv
  | trans _ _ first second => exact second (first hv)
  | entries perm =>
      obtain ⟨here, values⟩ := hv.of_map
      exact .map (unordered (perm.map _) here) fun entry mem => values entry (perm.mem_iff.2 mem)
  | value before key after _ ih =>
      obtain ⟨here, values⟩ := hv.of_map
      simp only [List.forall_mem_append, List.forall_mem_cons] at values
      refine .map (by simpa using here) ?_
      simp only [List.forall_mem_append, List.forall_mem_cons]
      exact ⟨values.1, ih values.2.1, values.2.2⟩
  | item before after _ ih =>
      have each := hv.of_array
      simp only [List.forall_mem_append, List.forall_mem_cons] at each
      refine .array ?_
      simp only [List.forall_mem_append, List.forall_mem_cons]
      exact ⟨each.1, ih each.2.1, each.2.2⟩
  | content number _ ih => exact .tag number (ih hv.of_tag)

end Reordered

/-- Putting a value in order changes nothing but the order of map entries. -/
theorem Orderable.reordered {value : Value} (h : Orderable value) : Reordered value value.order.1 := by
  induction h with
  | @atom value atom =>
      rw [Value.order_atom atom]
      exact .refl value
  | @array items each ih =>
      rw [Value.order_array fun item mem => Orderable.order (each item mem)]
      exact .items_map (·.order.1) ih
  | @map entries keys values ih =>
      rw [Value.order_map keys fun entry mem => Orderable.order (values entry mem)]
      have kept : (entries.map keyed).map (fun entry => (entry.key, entry.value)) =
          entries.map fun entry => (entry.1, entry.2.order.1) := by
        simp [keyed, Function.comp_def]
      exact .trans (.values_map (·.order.1) ih) (.entries (kept ▸ (sortEntries_perm_map _).symm))
  | @tag number content inner ih =>
      rw [Value.order_tag number (Orderable.order inner)]
      exact .content number ih

/-! ## Distinct keys -/

/-- The keys of every map are integers, texts and byte strings, and pairwise distinct. -/
def DistinctlyKeyed (value : Value) : Prop :=
  EachMap (fun keys => (∀ key ∈ keys, key.isKey) ∧ keys.Nodup) value

variable {v w : Value}

theorem DistinctlyKeyed.orderable (h : DistinctlyKeyed v) : Orderable v :=
  EachMap.imp (fun _ => And.left) h

theorem DistinctlyKeyed.of_reordered (h : DistinctlyKeyed v) (same : Reordered v w) : DistinctlyKeyed w := by
  refine same.eachMap ?_ h
  intro keys others perm distinct
  exact ⟨fun key mem => distinct.1 key (perm.mem_iff.2 mem), perm.nodup_iff.1 distinct.2⟩

/-- Distinct keys have distinct written forms. -/
theorem nodup_forms {entries : List (Value × Value)} (sized : ∀ entry ∈ entries, Sized entry.1)
    (distinct : (entries.map Prod.fst).Nodup) : ((entries.map keyed).map (·.form)).Nodup := by
  have forms : (entries.map keyed).map (·.form) = (entries.map Prod.fst).map Value.write := by
    simp [keyed, Function.comp_def]
  rw [forms]
  refine distinct.map_on ?_
  intro key mem other mem' same
  obtain ⟨entry, inside, rfl⟩ := List.mem_map.1 mem
  obtain ⟨entry', inside', rfl⟩ := List.mem_map.1 mem'
  exact (sized entry inside).write_inj (sized entry' inside') same

/-- In order, values that differ in the order of map entries only are the same. -/
theorem Reordered.order_eq (h : Reordered v w) (sized : Sized v) (keys : DistinctlyKeyed v) :
    v.order.1 = w.order.1 := by
  induction h with
  | refl => rfl
  | trans earlier _ first second =>
      exact (first sized keys).trans (second (earlier.sized sized) (keys.of_reordered earlier))
  | @entries entries others perm =>
      obtain ⟨here, values⟩ := EachMap.of_map keys
      obtain ⟨here', values'⟩ := EachMap.of_map (keys.of_reordered (.entries perm))
      rw [Value.order_map here.1 fun entry mem => (DistinctlyKeyed.orderable (values entry mem)).order,
        Value.order_map here'.1 fun entry mem => (DistinctlyKeyed.orderable (values' entry mem)).order]
      cases sized with
      | map _ sized _ => rw [sortEntries_perm (perm.map keyed) (nodup_forms sized here.2)]
  | @value before key after first second inner ih =>
      obtain ⟨here, values⟩ := EachMap.of_map keys
      obtain ⟨here', values'⟩ := EachMap.of_map (keys.of_reordered (.value before key after inner))
      rw [Value.order_map here.1 fun entry mem => (DistinctlyKeyed.orderable (values entry mem)).order,
        Value.order_map here'.1 fun entry mem => (DistinctlyKeyed.orderable (values' entry mem)).order]
      cases sized with
      | map _ _ sized =>
          have same : first.order.1 = second.order.1 :=
            ih (sized (key, first) (by simp)) (values (key, first) (by simp))
          simp [keyed, same]
  | @item before after first second inner ih =>
      have each := EachMap.of_array keys
      have each' := EachMap.of_array (keys.of_reordered (.item before after inner))
      rw [Value.order_array fun item mem => (DistinctlyKeyed.orderable (each item mem)).order,
        Value.order_array fun item mem => (DistinctlyKeyed.orderable (each' item mem)).order]
      cases sized with
      | array _ sized =>
          have same : first.order.1 = second.order.1 := ih (sized first (by simp)) (each first (by simp))
          simp [same]
  | content number inner ih =>
      have inside : DistinctlyKeyed _ := EachMap.of_tag keys
      rw [Value.order_tag number (DistinctlyKeyed.orderable inside).order,
        Value.order_tag number (DistinctlyKeyed.orderable (inside.of_reordered inner)).order]
      cases sized with
      | tag _ sized => rw [ih sized inside]

/-! ## Normal forms -/

theorem Orderable.canonical (h : Orderable v) : v.canonical = .ok v.order.1.write := by
  rw [Value.canonical, h.ordered]
  rfl

theorem write_order_eq_iff (sv : Sized v) (sw : Sized w) (kv : DistinctlyKeyed v) (kw : DistinctlyKeyed w) :
    v.order.1.write = w.order.1.write ↔ Reordered v w := by
  have left := kv.orderable.reordered
  have right := kw.orderable.reordered
  constructor
  · intro same
    have ordered := (left.sized sv).write_inj (right.sized sw) same
    exact .trans left (ordered ▸ right.symm)
  · intro reordered
    rw [reordered.order_eq sv kv]

/-- Values with distinct keys have a canonical form, which they share exactly when they differ in nothing but the order
of map entries; and so with the requests that carry them and the messages that a token authenticates for them. -/
theorem canonical_eq_iff_reordered (sv : Sized v) (sw : Sized w) (kv : DistinctlyKeyed v) (kw : DistinctlyKeyed w) :
    (∃ encoded, v.canonical = .ok encoded) ∧ (∃ encoded, w.canonical = .ok encoded) ∧
      (v.canonical = w.canonical ↔ Reordered v w) ∧
      (∀ command, Request.encode command (some v) = Request.encode command (some w) ↔ Reordered v w) ∧
      ∀ domain subCommand, Request.authenticated domain subCommand (some v) =
        Request.authenticated domain subCommand (some w) ↔ Reordered v w := by
  have left := kv.orderable.canonical
  have right := kw.orderable.canonical
  have forms := write_order_eq_iff sv sw kv kw
  refine ⟨⟨_, left⟩, ⟨_, right⟩, ?_, fun command => ?_, fun domain subCommand => ?_⟩
  · rw [left, right, Except.ok.injEq, forms]
  · rw [Request.encode_of_canonical command left, Request.encode_of_canonical command right, Except.ok.injEq,
      List.cons_inj_right, forms]
  · rw [Request.authenticated_of_canonical domain subCommand left,
      Request.authenticated_of_canonical domain subCommand right, Except.ok.injEq, List.append_cancel_left_eq,
      List.cons_inj_right, forms]

/-- A map as one caller builds it. -/
def assembled : Value := .map [
  (.text "rp", .map [(.text "name", .text "Ö"), (.text "id", .bytes [1, 2])]),
  (.unsigned 300, .tag 24 (.array [.map [(.bytes [0xFF], .float 0x8000000000000000), (.negative 0, .null)]]))]

/-- The same map as another caller builds it. -/
def rearranged : Value := .map [
  (.unsigned 300, .tag 24 (.array [.map [(.negative 0, .null), (.bytes [0xFF], .float 0x8000000000000000)]])),
  (.text "rp", .map [(.text "id", .bytes [1, 2]), (.text "name", .text "Ö")])]

theorem sized_assembled : Sized assembled := by
  have strings : Sized (.map [(.text "name", .text "Ö"), (.text "id", .bytes [1, 2])]) := by
    refine .map (by decide) ?_ ?_ <;> simp only [List.forall_mem_cons, List.not_mem_nil, false_implies, implies_true]
    · exact ⟨.text (by decide), .text (by decide), trivial⟩
    · exact ⟨.text (by decide), .bytes (by decide), trivial⟩
  have inner : Sized (.map [(.bytes [0xFF], .float 0x8000000000000000), (.negative 0, .null)]) := by
    refine .map (by decide) ?_ ?_ <;> simp only [List.forall_mem_cons, List.not_mem_nil, false_implies, implies_true]
    · exact ⟨.bytes (by decide), .negative 0, trivial⟩
    · exact ⟨.float _, .null, trivial⟩
  refine .map (by decide) ?_ ?_ <;> simp only [List.forall_mem_cons, List.not_mem_nil, false_implies, implies_true]
  · exact ⟨.text (by decide), .unsigned 300, trivial⟩
  · exact ⟨strings, .tag 24 (.array (by decide) (List.forall_mem_singleton.2 inner)), trivial⟩

theorem distinctlyKeyed_assembled : DistinctlyKeyed assembled := by
  have strings : DistinctlyKeyed (.map [(.text "name", .text "Ö"), (.text "id", .bytes [1, 2])]) := by
    refine .map (by simp [Value.isKey]) ?_
    simp only [List.forall_mem_cons, List.not_mem_nil, false_implies, implies_true]
    exact ⟨.atom rfl, .atom rfl, trivial⟩
  have inner : DistinctlyKeyed (.map [(.bytes [0xFF], .float 0x8000000000000000), (.negative 0, .null)]) := by
    refine .map (by simp [Value.isKey]) ?_
    simp only [List.forall_mem_cons, List.not_mem_nil, false_implies, implies_true]
    exact ⟨.atom rfl, .atom rfl, trivial⟩
  refine .map (by simp [Value.isKey]) ?_
  simp only [List.forall_mem_cons, List.not_mem_nil, false_implies, implies_true]
  exact ⟨strings, .tag 24 (.array (List.forall_mem_singleton.2 inner)), trivial⟩

theorem reordered_rearranged : Reordered assembled rearranged := by
  have strings : Reordered (.map [(.text "name", .text "Ö"), (.text "id", .bytes [1, 2])])
      (.map [(.text "id", .bytes [1, 2]), (.text "name", .text "Ö")]) := .entries (.swap _ _ _)
  have inner : Reordered (.map [(.bytes [0xFF], .float 0x8000000000000000), (.negative 0, .null)])
      (.map [(.negative 0, .null), (.bytes [0xFF], .float 0x8000000000000000)]) := .entries (.swap _ _ _)
  have tagged := Reordered.content 24 (.item [] [] inner)
  exact .trans (.value [] _ _ strings) (.trans (.value [_] _ [] tagged) (.entries (.swap _ _ _)))

theorem canonical_rearranged : Sized assembled ∧ Sized rearranged ∧ DistinctlyKeyed assembled ∧
    DistinctlyKeyed rearranged ∧ assembled.canonical = rearranged.canonical ∧
    Request.encode .credentialManagement (some assembled) = Request.encode .credentialManagement (some rearranged) := by
  have sized := reordered_rearranged.sized sized_assembled
  have keys := distinctlyKeyed_assembled.of_reordered reordered_rearranged
  obtain ⟨-, -, canonical, requests, -⟩ :=
    canonical_eq_iff_reordered sized_assembled sized distinctlyKeyed_assembled keys
  exact ⟨sized_assembled, sized, distinctlyKeyed_assembled, keys, canonical.2 reordered_rearranged,
    (requests .credentialManagement).2 reordered_rearranged⟩

end SecurityKey.Cbor
