/-!
# Dictionaries

A dictionary has at most one value under each key, and lists its entries in the order of their keys.
-/

namespace SecurityKey

/-- Values under keys, ascending and all different. -/
structure Dictionary (κ : Type) (α : Type) [LT κ] where
  entries : List (κ × α)
  ascending : entries.Pairwise fun a b => a.1 < b.1

namespace Dictionary

variable {κ α : Type} [LT κ]

/-- The dictionary without entries. -/
def empty : Dictionary κ α :=
  ⟨[], .nil⟩

instance : Inhabited (Dictionary κ α) := ⟨empty⟩

variable [DecidableEq κ]

/-- The value under a key. -/
def get? (d : Dictionary κ α) (key : κ) : Option α :=
  d.entries.lookup key

/-- Whether there is a value under a key. -/
def contains (d : Dictionary κ α) (key : κ) : Bool :=
  (d.get? key).isSome

variable [DecidableLT κ]

/-- The entries with a value under a key, in place of the one that was there. -/
def insertEntry (key : κ) (value : α) : List (κ × α) → List (κ × α)
  | [] => [(key, value)]
  | (k, v) :: rest =>
    if key = k then (key, value) :: rest
    else if key < k then (key, value) :: (k, v) :: rest
    else (k, v) :: insertEntry key value rest

theorem fst_of_mem_insertEntry {key : κ} {value : α} {entries : List (κ × α)} {entry : κ × α}
    (h : entry ∈ insertEntry key value entries) : entry.1 = key ∨ entry ∈ entries := by
  induction entries with
  | nil => exact .inl (by simp_all [insertEntry])
  | cons first rest ih =>
    simp only [insertEntry] at h
    split at h
    · rcases List.mem_cons.1 h with rfl | h
      · exact .inl rfl
      · exact .inr (List.mem_cons_of_mem _ h)
    · split at h
      · rcases List.mem_cons.1 h with rfl | h
        · exact .inl rfl
        · exact .inr h
      · rcases List.mem_cons.1 h with rfl | h
        · exact .inr List.mem_cons_self
        · exact (ih h).imp_right (List.mem_cons_of_mem _)

variable [LE κ] [Std.IsLinearOrder κ] [Std.LawfulOrderLT κ]

theorem pairwise_insertEntry {key : κ} {value : α} {entries : List (κ × α)}
    (h : entries.Pairwise fun a b => a.1 < b.1) :
    (insertEntry key value entries).Pairwise fun a b => a.1 < b.1 := by
  induction entries with
  | nil => simp [insertEntry]
  | cons first rest ih =>
    obtain ⟨below, tail⟩ := List.pairwise_cons.1 h
    simp only [insertEntry]
    split
    · rename_i same
      exact List.pairwise_cons.2 ⟨fun entry mem => same ▸ below entry mem, tail⟩
    · split
      · rename_i less
        refine List.pairwise_cons.2 ⟨fun entry mem => ?_, h⟩
        rcases List.mem_cons.1 mem with rfl | mem
        · exact less
        · exact Std.lt_trans less (below entry mem)
      · rename_i differ notLess
        refine List.pairwise_cons.2 ⟨fun entry mem => ?_, ih tail⟩
        rcases fst_of_mem_insertEntry mem with same | mem
        · rcases Std.lt_trichotomy first.1 key with less | same' | less
          · exact same ▸ less
          · exact absurd same'.symm differ
          · exact absurd less notLess
        · exact below entry mem

/-- A dictionary with a value under a key, in place of the one that was there. -/
def insert (d : Dictionary κ α) (key : κ) (value : α) : Dictionary κ α :=
  ⟨insertEntry key value d.entries, pairwise_insertEntry d.ascending⟩

/-- The dictionary of a list of entries; the last one of a key counts. -/
def ofList (entries : List (κ × α)) : Dictionary κ α :=
  entries.foldl (fun d entry => d.insert entry.1 entry.2) empty

end Dictionary

end SecurityKey
