import Mathlib.Data.List.Nodup
import Mathlib.Data.List.Perm.Basic

/-!
# Lists of entries

What is found under a key does not depend on the order of the entries as long as their keys are distinct, and neither
does reading the entries one after another.
-/

namespace SecurityKey

variable {α β κ : Type}

/-! ## Looking up -/

section Lookup

variable [BEq κ] [LawfulBEq κ] {entries others : List (κ × α)} {other : κ × α} {key : κ} {a : α}

theorem lookup_cons_of_ne (differs : key ≠ other.1) : (other :: entries).lookup key = entries.lookup key := by
  rw [List.lookup_cons, beq_eq_false_iff_ne.2 differs]

theorem mem_of_lookup_eq_some (found : entries.lookup key = some a) : (key, a) ∈ entries := by
  obtain ⟨before, after, rfl, -⟩ := List.lookup_eq_some_iff.1 found
  simp

theorem lookup_eq_none_iff : entries.lookup key = none ↔ key ∉ entries.map Prod.fst := by
  simp only [List.lookup_eq_none_iff, bne_iff_ne, List.mem_map, not_exists, not_and, ne_comm]

theorem lookup_eq_some_iff_mem (distinct : (entries.map Prod.fst).Nodup) :
    entries.lookup key = some a ↔ (key, a) ∈ entries := by
  refine ⟨mem_of_lookup_eq_some, fun mem => ?_⟩
  induction entries with
  | nil => cases mem
  | cons entry entries ih =>
      obtain ⟨other, tail⟩ := List.nodup_cons.1 distinct
      rcases List.mem_cons.1 mem with rfl | mem
      · exact List.lookup_cons_self
      · have differs : key ≠ entry.1 := fun same => other (same ▸ List.mem_map_of_mem mem)
        rw [lookup_cons_of_ne differs]
        exact ih tail mem

theorem lookup_perm (perm : entries.Perm others) (distinct : (entries.map Prod.fst).Nodup) :
    entries.lookup key = others.lookup key := by
  have distinct' : (others.map Prod.fst).Nodup := (perm.map Prod.fst).nodup_iff.1 distinct
  apply Option.ext
  intro a
  rw [lookup_eq_some_iff_mem distinct, lookup_eq_some_iff_mem distinct', perm.mem_iff]

end Lookup

/-- Where some of the items have a property, there is a last one. -/
theorem exists_last {p : α → Prop} {items : List α} (some : ∃ item ∈ items, p item) :
    ∃ before item after, items = before ++ item :: after ∧ p item ∧ ∀ later ∈ after, ¬p later := by
  induction items with
  | nil => simp at some
  | cons item items ih =>
      by_cases later : ∃ other ∈ items, p other
      · obtain ⟨before, last, after, rfl, holds, none⟩ := ih later
        exact ⟨item :: before, last, after, rfl, holds, none⟩
      · obtain ⟨other, mem, holds⟩ := some
        rcases List.mem_cons.1 mem with rfl | mem
        · exact ⟨[], other, items, rfl, holds, fun other mem holds => later ⟨other, mem, holds⟩⟩
        · exact absurd ⟨other, mem, holds⟩ later

/-! ## Reading one after another -/

theorem exists_perm_map {f : α → β} {items : List α} {others : List β} (perm : others.Perm (items.map f)) :
    ∃ items' : List α, others = items'.map f ∧ items'.Perm items := by
  have comp := congrFun (congrFun (List.eq_map_comp_perm f) others) items
  exact comp.mpr perm

variable {f : α → Option β} {items others : List α} {read : List β}

theorem mapM_eq_some_iff : items.mapM f = some read ↔ items.map f = read.map some := by
  induction items generalizing read with
  | nil => cases read <;> simp
  | cons item items ih =>
      simp only [List.mapM_cons, Option.bind_eq_bind, Option.bind_eq_some_iff, ih]
      cases read with
      | nil => simp
      | cons b read => simp

theorem map_eq_map_some_iff {write : β → α} (inverse : ∀ item b, f item = some b ↔ item = write b) :
    items.map f = read.map some ↔ items = read.map write := by
  induction items generalizing read with
  | nil => cases read <;> simp
  | cons item items ih => cases read <;> simp [inverse, ih]

theorem exists_mapM (all : ∀ item ∈ items, ∃ b, f item = some b) : ∃ read, items.mapM f = some read := by
  induction items with
  | nil => exact ⟨[], rfl⟩
  | cons item items ih =>
      obtain ⟨⟨b, first⟩, rest⟩ := List.forall_mem_cons.1 all
      obtain ⟨read, later⟩ := ih rest
      exact ⟨b :: read, by simp [List.mapM_cons, first, later]⟩

/-- Where the items are split, what is read is. -/
theorem split_of_mapM {before after : List α} {item : α} (h : (before ++ item :: after).mapM f = some read) :
    ∃ front b back, read = front ++ b :: back ∧ f item = some b ∧ (before ++ after).mapM f = some (front ++ back) := by
  have same := (mapM_eq_some_iff.1 h).symm
  rw [List.map_append, List.map_cons] at same
  obtain ⟨front, rest, rfl, first, second⟩ := List.map_eq_append_iff.1 same
  obtain ⟨b, back, rfl, here, third⟩ := List.map_eq_cons_iff.1 second
  refine ⟨front, b, back, rfl, here.symm, ?_⟩
  rw [mapM_eq_some_iff, List.map_append, List.map_append, first, third]

/-- Where what is read is split, the items are. -/
theorem mapM_split {front back : List β} {b : β} (h : items.mapM f = some (front ++ b :: back)) :
    ∃ before item after, items = before ++ item :: after ∧ f item = some b ∧
      (before ++ after).mapM f = some (front ++ back) := by
  have same := mapM_eq_some_iff.1 h
  rw [List.map_append, List.map_cons] at same
  obtain ⟨before, rest, rfl, first, second⟩ := List.map_eq_append_iff.1 same
  obtain ⟨item, after, rfl, here, third⟩ := List.map_eq_cons_iff.1 second
  refine ⟨before, item, after, rfl, here, ?_⟩
  rw [mapM_eq_some_iff, List.map_append, List.map_append, first, third]

theorem exists_mapM_of_perm (perm : others.Perm items) (h : items.mapM f = some read) :
    ∃ read', others.mapM f = some read' ∧ read'.Perm read := by
  have read_perm := perm.map f
  rw [mapM_eq_some_iff.1 h] at read_perm
  obtain ⟨read', same, perm'⟩ := exists_perm_map read_perm
  exact ⟨read', mapM_eq_some_iff.2 same, perm'⟩

end SecurityKey
