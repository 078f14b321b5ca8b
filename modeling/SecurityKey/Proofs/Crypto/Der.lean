import Mathlib.Tactic.SplitIfs
import SecurityKey.Crypto.Der
import SecurityKey.Proofs.Bytes

/-!
# Layouts of DER elements

What an element is, apart from how it is read: a tag, a length in one of its forms, and as many bytes as that. Reading
takes exactly these from the front of a byte string and hands back what follows. Every element with contents of less
than 2^32 bytes has a layout with a length in its shortest form.
-/

namespace SecurityKey.Crypto.Der

/-- The forms of a length: a byte below 128, or a number of one to four bytes behind the count of them. A long form may
be longer than needed. -/
inductive LengthForm : (length : Nat) → Bytes → Prop where
  | short {length : UInt8} : length.toNat < 0x80 → LengthForm length.toNat [length]
  | long {count : UInt8} {number : Bytes} : count.toNat = 0x80 + number.length → 1 ≤ number.length →
      number.length ≤ 4 → LengthForm (Bytes.toNat number) (count :: number)

/-- The bytes of an element, which its contents fill up to the end. -/
inductive Layout : Element → Bytes → Prop where
  | intro {tag : UInt8} {form contents : Bytes} : LengthForm contents.length form →
      Layout ⟨tag, contents⟩ (tag :: (form ++ contents))

/-- The bytes of elements one after another. -/
inductive Layouts : List Element → Bytes → Prop where
  | nil : Layouts [] []
  | cons {element : Element} {elements : List Element} {written others : Bytes} : Layout element written →
      Layouts elements others → Layouts (element :: elements) (written ++ others)

variable {bytes rest contents : Bytes} {element : Element} {tag : UInt8} {length : Nat}

/-! ## Reading -/

theorem length?_append {form : Bytes} (h : LengthForm length form) (rest : Bytes) :
    length? (form ++ rest) = some (length, rest) := by
  cases h with
  | short small =>
      have small : _ < (0x80 : UInt8) := UInt8.lt_iff_toNat_lt.2 small
      simp only [List.cons_append, List.nil_append, length?, if_pos small]
  | @long count number counted positive few =>
      have large : ¬count < 0x80 := by
        rw [UInt8.lt_iff_toNat_lt, counted]
        exact Nat.not_lt.2 (Nat.le_add_right ..)
      have width : count.toNat - 0x80 = number.length := by omega
      have inside : ¬(number.length = 0 ∨ 4 < number.length) := by omega
      have cut : Bytes.splitAt? number.length (number ++ rest) = some (number, rest) :=
        Bytes.splitAt?_eq_some_iff.2 ⟨rfl, rfl⟩
      simp only [List.cons_append, length?, if_neg large, width, if_neg inside, cut]
      rfl

theorem length?_eq_some_iff :
    length? bytes = some (length, rest) ↔ ∃ form, LengthForm length form ∧ bytes = form ++ rest := by
  constructor
  · intro h
    cases bytes with
    | nil => cases h
    | cons first bytes =>
        simp only [length?] at h
        split_ifs at h with small out
        · cases h
          exact ⟨[first], .short (UInt8.lt_iff_toNat_lt.1 small), rfl⟩
        · cases h
        · simp only [Option.bind_eq_bind, Option.bind_eq_some_iff, Prod.exists] at h
          obtain ⟨number, after, cut, same⟩ := h
          cases same
          obtain ⟨counted, rfl⟩ := Bytes.splitAt?_eq_some_iff.1 cut
          have large : 0x80 ≤ first.toNat := by
            rw [UInt8.lt_iff_toNat_lt] at small
            exact Nat.not_lt.1 small
          exact ⟨first :: number, .long (by omega) (by omega) (by omega), rfl⟩
  · rintro ⟨form, h, rfl⟩
    exact length?_append h rest

theorem element?_eq_some_iff :
    element? bytes = some (element, rest) ↔ ∃ written, Layout element written ∧ bytes = written ++ rest := by
  constructor
  · intro h
    cases bytes with
    | nil => cases h
    | cons tag bytes =>
        simp only [element?, Option.bind_eq_bind, Option.bind_eq_some_iff, Prod.exists] at h
        obtain ⟨length, after, measured, contents, rest', cut, same⟩ := h
        cases same
        obtain ⟨form, written, rfl⟩ := length?_eq_some_iff.1 measured
        obtain ⟨rfl, rfl⟩ := Bytes.splitAt?_eq_some_iff.1 cut
        exact ⟨tag :: (form ++ contents), .intro written, by simp⟩
  · rintro ⟨written, ⟨h⟩, rfl⟩
    rename_i tag form contents
    have cut : Bytes.splitAt? contents.length (contents ++ rest) = some (contents, rest) :=
      Bytes.splitAt?_eq_some_iff.2 ⟨rfl, rfl⟩
    simp only [List.cons_append, List.append_assoc, element?, length?_append h, Option.bind_eq_bind,
      Option.bind_some, cut]
    rfl

theorem tagged?_eq_some_iff : tagged? tag bytes = some (contents, rest) ↔
    ∃ written, Layout ⟨tag, contents⟩ written ∧ bytes = written ++ rest := by
  rw [← element?_eq_some_iff, tagged?, Option.bind_eq_bind, Option.bind_eq_some_iff]
  constructor
  · rintro ⟨⟨⟨found, contents'⟩, rest'⟩, read, same⟩
    dsimp only at same
    split_ifs at same with equal
    cases same
    exact equal ▸ read
  · intro read
    exact ⟨_, read, if_pos rfl⟩

theorem tagged?_append {written : Bytes} (h : Layout ⟨tag, contents⟩ written) (rest : Bytes) :
    tagged? tag (written ++ rest) = some (contents, rest) :=
  tagged?_eq_some_iff.2 ⟨written, h, rfl⟩

theorem Layouts.element?_append {elements : List Element} {written : Bytes} (h : Layouts (element :: elements) written)
    (rest : Bytes) : ∃ others, element? (written ++ rest) = some (element, others) := by
  cases h with
  | @cons _ _ written others layout _ =>
      exact ⟨others ++ rest, element?_eq_some_iff.2 ⟨written, layout, List.append_assoc ..⟩⟩

theorem Layout.infix_of_contents {written part : Bytes} (h : Layout element written)
    (inside : part <:+: element.contents) : part <:+: written := by
  cases h with
  | @intro tag form contents _ => exact inside.trans ⟨tag :: form, [], by simp⟩

/-! ## Writing -/

/-- The bytes that a length takes without zeros in front, up to four. -/
def lengthWidth (length : Nat) : Nat :=
  if length < 256 then 1 else if length < 65536 then 2 else if length < 16777216 then 3 else 4

/-- The shortest form of a length below 2^32. -/
def shortestForm (length : Nat) : Bytes :=
  if length < 0x80 then [.ofNat length]
  else .ofNat (0x80 + lengthWidth length) :: Bytes.ofNat (lengthWidth length) length

/-- An element with its length in the shortest form. -/
def Element.write (element : Element) : Bytes :=
  element.tag :: (shortestForm element.contents.length ++ element.contents)

theorem lengthForm_shortestForm (h : length < 2 ^ 32) : LengthForm length (shortestForm length) := by
  have width : 1 ≤ lengthWidth length ∧ lengthWidth length ≤ 4 ∧ length < 256 ^ lengthWidth length := by
    unfold lengthWidth
    split_ifs <;> omega
  obtain ⟨positive, few, inside⟩ := width
  unfold shortestForm
  split_ifs with small
  · have byte : (UInt8.ofNat length).toNat = length := UInt8.toNat_ofNat_of_lt' (Nat.lt_trans small (by decide))
    have form : LengthForm (UInt8.ofNat length).toNat [.ofNat length] := .short (by rw [byte]; exact small)
    rwa [byte] at form
  · have read : Bytes.toNat (Bytes.ofNat (lengthWidth length) length) = length := by
      rw [Bytes.toNat_ofNat_of_lt inside]
    have count : (UInt8.ofNat (0x80 + lengthWidth length)).toNat = 0x80 + lengthWidth length :=
      UInt8.toNat_ofNat_of_lt' (Nat.lt_of_le_of_lt (Nat.add_le_add_left few 0x80) (by decide))
    have form : LengthForm (Bytes.toNat (Bytes.ofNat (lengthWidth length) length)) _ :=
      .long (by rw [count, Bytes.length_ofNat]) (by rwa [Bytes.length_ofNat]) (by rwa [Bytes.length_ofNat])
    rwa [read] at form

/-- No form of a length is shorter than the shortest one. -/
theorem length_shortestForm_le {form : Bytes} (h : LengthForm length form) :
    (shortestForm length).length ≤ form.length := by
  unfold shortestForm
  cases h with
  | short small => rw [if_pos small]; exact Nat.le_refl 1
  | @long count number _ positive few =>
      have below := Bytes.toNat_lt number
      split_ifs
      · exact Nat.le_add_left ..
      · have least : lengthWidth (Bytes.toNat number) ≤ number.length := by
          unfold lengthWidth
          obtain one | two | three | four : number.length = 1 ∨ number.length = 2 ∨ number.length = 3 ∨
            number.length = 4 := by omega
          all_goals
            simp only [*] at below ⊢
            split_ifs <;> omega
        rw [List.length_cons, List.length_cons, Bytes.length_ofNat]
        exact Nat.succ_le_succ least

theorem layout_write (h : element.contents.length < 2 ^ 32) : Layout element element.write :=
  .intro (lengthForm_shortestForm h)

theorem length_contents_le_write (element : Element) : element.contents.length ≤ element.write.length := by
  rw [Element.write, List.length_cons, List.length_append]
  omega

theorem layouts_write {elements : List Element} (h : (elements.flatMap Element.write).length < 2 ^ 32) :
    Layouts elements (elements.flatMap Element.write) := by
  induction elements with
  | nil => exact .nil
  | cons element elements ih =>
      rw [List.flatMap_cons, List.length_append] at h
      have first := length_contents_le_write element
      exact .cons (layout_write (by omega)) (ih (by omega))

end SecurityKey.Crypto.Der
