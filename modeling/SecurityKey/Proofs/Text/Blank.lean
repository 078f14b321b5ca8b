import Mathlib.Data.List.DropRight
import Mathlib.Data.List.TakeWhile
import SecurityKey.Text.Blank

/-!
# Texts without blanks at their ends

A text is its core with blank characters around it, and it has one core only. Trimming finds it.
-/

namespace SecurityKey.Text

/-! ## Lists -/

section Lists

variable {α : Type} {p : α → Bool} {items core : List α}

theorem dropWhile_of_head? (h : ∀ a ∈ items.head?, ¬p a) : items.dropWhile p = items := by
  cases items with
  | nil => rfl
  | cons a items => exact List.dropWhile_cons_of_neg (h a rfl)

theorem head?_dropWhile (p : α → Bool) (items : List α) : ∀ a ∈ (items.dropWhile p).head?, ¬p a := by
  intro a first
  have stops := List.head?_dropWhile_not p items
  rw [Option.mem_def.1 first] at stops
  simpa using stops

/-- What is left of a list without the items of a kind at its ends is the one part of it that neither begins nor ends
with one, with nothing else around it. -/
theorem rdropWhile_dropWhile_eq_iff : (items.dropWhile p).rdropWhile p = core ↔
    (∀ a ∈ core.head?, ¬p a) ∧ (∀ a ∈ core.getLast?, ¬p a) ∧
      ∃ before after, (∀ a ∈ before, p a) ∧ (∀ a ∈ after, p a) ∧ items = before ++ (core ++ after) := by
  constructor
  · rintro rfl
    have cut : (items.dropWhile p).rdropWhile p ++ (items.dropWhile p).rtakeWhile p = items.dropWhile p :=
      List.rdropWhile_append_rtakeWhile
    refine ⟨fun a first => ?_, fun a last => ?_, items.takeWhile p, (items.dropWhile p).rtakeWhile p,
      fun a => List.mem_takeWhile_imp, fun a => List.mem_rtakeWhile_imp, ?_⟩
    · refine head?_dropWhile p items a ?_
      rw [← cut, List.head?_append, Option.mem_def.1 first]
      rfl
    · refine head?_dropWhile p (items.dropWhile p).reverse a ?_
      rwa [List.rdropWhile, List.getLast?_reverse] at last
    · rw [cut, List.takeWhile_append_dropWhile]
  · rintro ⟨first, last, before, after, blankBefore, blankAfter, rfl⟩
    rw [List.dropWhile_append_of_pos blankBefore]
    cases core with
    | nil =>
        rw [List.nil_append, List.dropWhile_eq_nil_iff.2 blankAfter]
        rfl
    | cons a core =>
        have start : ((a :: core) ++ after).dropWhile p = (a :: core) ++ after := dropWhile_of_head? first
        rw [start, List.rdropWhile, List.reverse_append,
          List.dropWhile_append_of_pos (by simpa using blankAfter), dropWhile_of_head?, List.reverse_reverse]
        rwa [List.head?_reverse]

end Lists

/-! ## Texts -/

/-- A text that neither begins nor ends with a blank character. -/
def IsTidy (text : String) : Prop :=
  (∀ c ∈ text.toList.head?, ¬isBlank c) ∧ ∀ c ∈ text.toList.getLast?, ¬isBlank c

/-- A text is another one, which is tidy, with blank characters around it. -/
structure Surrounds (text core : String) : Prop where
  tidy : IsTidy core
  parts : ∃ before after : List Char, (∀ c ∈ before, isBlank c) ∧ (∀ c ∈ after, isBlank c) ∧
    text.toList = before ++ (core.toList ++ after)

variable {text core : String}

theorem trim_eq_iff : trim text = core ↔ Surrounds text core := by
  have same : trim text = core ↔ (text.toList.dropWhile isBlank).rdropWhile isBlank = core.toList := by
    rw [← String.toList_inj, trim, String.toList_ofList]
    rfl
  rw [same, rdropWhile_dropWhile_eq_iff]
  exact ⟨fun ⟨first, last, parts⟩ => ⟨⟨first, last⟩, parts⟩, fun ⟨⟨first, last⟩, parts⟩ => ⟨first, last, parts⟩⟩

theorem surrounds_trim (text : String) : Surrounds text (trim text) :=
  trim_eq_iff.1 rfl

end SecurityKey.Text
