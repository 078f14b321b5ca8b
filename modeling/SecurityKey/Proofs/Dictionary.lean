import Mathlib.Data.List.Nodup
import Mathlib.Data.List.Perm.Basic
import SecurityKey.Dictionary
import SecurityKey.Proofs.Entries

/-!
# Dictionaries from lists

A dictionary made of a list has the last value that the list has under a key. A list with distinct keys makes the
dictionary with its entries, whatever their order.
-/

namespace SecurityKey.Dictionary

variable {κ α : Type} [LT κ] {key : κ} {value : α} {entries : List (κ × α)} {d d' : Dictionary κ α}

theorem eq_of_entries (same : d.entries = d'.entries) : d = d' := by
  cases d
  cases d'
  cases same
  rfl

theorem nodup_keys [LE κ] [Std.LawfulOrderLT κ] (d : Dictionary κ α) : (d.entries.map Prod.fst).Nodup :=
  List.pairwise_map.2 (d.ascending.imp Std.ne_of_lt)

variable [DecidableEq κ] [DecidableLT κ]

theorem lookup_insertEntry_self (key : κ) (value : α) (entries : List (κ × α)) :
    (insertEntry key value entries).lookup key = some value := by
  induction entries with
  | nil => exact List.lookup_cons_self
  | cons entry entries ih =>
      unfold insertEntry
      split_ifs with replaced first
      · exact List.lookup_cons_self
      · exact List.lookup_cons_self
      · rwa [lookup_cons_of_ne replaced]

theorem lookup_insertEntry_of_ne {other : κ} (differs : other ≠ key) (value : α) (entries : List (κ × α)) :
    (insertEntry key value entries).lookup other = entries.lookup other := by
  induction entries with
  | nil => exact lookup_cons_of_ne differs
  | cons entry entries ih =>
      unfold insertEntry
      split_ifs with replaced first
      · rw [lookup_cons_of_ne differs, lookup_cons_of_ne (replaced ▸ differs)]
      · rw [lookup_cons_of_ne differs]
      · rw [List.lookup_cons, List.lookup_cons, ih]

theorem perm_insertEntry (fresh : key ∉ entries.map Prod.fst) :
    (insertEntry key value entries).Perm ((key, value) :: entries) := by
  induction entries with
  | nil => rfl
  | cons entry entries ih =>
      rw [List.map_cons, List.mem_cons, not_or] at fresh
      unfold insertEntry
      rw [if_neg fresh.1]
      split
      · rfl
      · exact ((ih fresh.2).cons _).trans (.swap _ _ _)

variable [LE κ] [Std.IsLinearOrder κ] [Std.LawfulOrderLT κ]

theorem perm_foldl_insert (distinct : ((d.entries ++ entries).map Prod.fst).Nodup) :
    (entries.foldl (fun d entry => d.insert entry.1 entry.2) d).entries.Perm (d.entries ++ entries) := by
  -- The dictionary so far stands for the entries that were inserted.
  induction entries generalizing d with
  | nil => rw [List.append_nil]; rfl
  | cons entry entries ih =>
      have moved : ((d.entries ++ entry :: entries).map Prod.fst).Perm
          ((entry :: (d.entries ++ entries)).map Prod.fst) := List.perm_middle.map _
      obtain ⟨fresh, tail⟩ := List.nodup_cons.1 (moved.nodup_iff.1 distinct)
      have here : entry.1 ∉ d.entries.map Prod.fst := fun mem => fresh (by simp [List.mem_map.1 mem])
      have inserted : (d.insert entry.1 entry.2).entries.Perm (entry :: d.entries) := perm_insertEntry here
      have distinct' : (((d.insert entry.1 entry.2).entries ++ entries).map Prod.fst).Nodup :=
        ((inserted.append_right entries).map Prod.fst).nodup_iff.2 (List.nodup_cons.2 ⟨fresh, tail⟩)
      exact (ih distinct').trans ((inserted.append_right entries).trans List.perm_middle.symm)

theorem perm_ofList (distinct : (entries.map Prod.fst).Nodup) : (ofList entries).entries.Perm entries :=
  perm_foldl_insert (d := empty) distinct

/-- A dictionary is made of its entries in any order. -/
theorem ofList_of_perm (perm : entries.Perm d.entries) : ofList entries = d := by
  have distinct : (entries.map Prod.fst).Nodup := (perm.map _).nodup_iff.2 d.nodup_keys
  refine eq_of_entries (((perm_ofList distinct).trans perm).eq_of_pairwise ?_ (ofList entries).ascending d.ascending)
  exact fun a b _ _ less less' => absurd (Std.lt_trans less less') Std.lt_irrefl

/-- A dictionary is what is found in it. -/
theorem eq_of_get? (same : ∀ key, d.get? key = d'.get? key) : d = d' := by
  have perm : d.entries.Perm d'.entries := by
    refine (List.perm_ext_iff_of_nodup d.nodup_keys.of_map d'.nodup_keys.of_map).2 fun entry => ?_
    rw [← lookup_eq_some_iff_mem d.nodup_keys, ← lookup_eq_some_iff_mem d'.nodup_keys]
    exact Eq.congr_left (same entry.1)
  exact (ofList_of_perm (List.Perm.refl d.entries)).symm.trans (ofList_of_perm perm)

theorem get?_foldl_insert (d : Dictionary κ α) (entries : List (κ × α)) (key : κ) :
    (entries.foldl (fun d entry => d.insert entry.1 entry.2) d).get? key =
      (entries.reverse.lookup key).or (d.get? key) := by
  induction entries generalizing d with
  | nil => rfl
  | cons entry entries ih =>
      have first : (d.insert entry.1 entry.2).get? key = ([entry].lookup key).or (d.get? key) := by
        by_cases same : key = entry.1
        · subst same
          rw [List.lookup_cons_self]
          exact lookup_insertEntry_self _ _ _
        · rw [lookup_cons_of_ne same]
          exact lookup_insertEntry_of_ne same _ _
      rw [List.foldl_cons, ih, List.reverse_cons, List.lookup_append, Option.or_assoc, first]

/-- The last value that a list has under a key counts. -/
theorem get?_ofList (entries : List (κ × α)) (key : κ) : (ofList entries).get? key = entries.reverse.lookup key :=
  (get?_foldl_insert empty entries key).trans Option.or_none

theorem get?_ofList_eq_some_iff : (ofList entries).get? key = some value ↔
    ∃ before after, entries = before ++ (key, value) :: after ∧ key ∉ after.map Prod.fst := by
  rw [get?_ofList, List.lookup_eq_some_iff]
  constructor
  · rintro ⟨after, before, split, none⟩
    refine ⟨before.reverse, after.reverse, ?_, ?_⟩
    · rw [← List.reverse_reverse entries, split, List.reverse_append, List.reverse_cons, List.append_assoc,
        List.singleton_append]
    · rw [List.map_reverse, List.mem_reverse]
      exact lookup_eq_none_iff.1 (List.lookup_eq_none_iff.2 none)
  · rintro ⟨before, after, rfl, none⟩
    refine ⟨after.reverse, before.reverse, by simp, ?_⟩
    refine List.lookup_eq_none_iff.1 (lookup_eq_none_iff.2 ?_)
    rwa [List.map_reverse, List.mem_reverse]

theorem contains_ofList_iff : (ofList entries).contains key ↔ key ∈ entries.map Prod.fst := by
  rw [contains, get?_ofList, Option.isSome_iff_ne_none, ne_eq, lookup_eq_none_iff, not_not, List.map_reverse,
    List.mem_reverse]

end SecurityKey.Dictionary
