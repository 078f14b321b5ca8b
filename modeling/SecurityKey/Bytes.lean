/-!
# Byte strings

Byte strings are lists of bytes. Numbers are written in them with the most significant byte first, and texts
in UTF-8.
-/

namespace SecurityKey

/-- A string of bytes. -/
abbrev Bytes := List UInt8

namespace Bytes

/-- The `width` low bytes of `n`, the most significant first. -/
def ofNat : (width n : Nat) → Bytes
  | 0, _ => []
  | width + 1, n => ofNat width (n / 256) ++ [UInt8.ofNat n]

/-- The number that `bytes` writes, the most significant byte first. -/
def toNat (bytes : Bytes) : Nat :=
  bytes.foldl (fun n b => 256 * n + b.toNat) 0

/-- The first `n` bytes and what follows them, when there are that many. -/
def splitAt? (n : Nat) (bytes : Bytes) : Option (Bytes × Bytes) :=
  let front := bytes.take n
  if front.length = n then some (front, bytes.drop n) else none

/-- The parts of `bytes` with `size` bytes each, the last one possibly shorter, up to `count` of them. -/
def parts (size : Nat) : (count : Nat) → Bytes → List Bytes
  | 0, _ => []
  | count + 1, bytes => if bytes.isEmpty then [] else bytes.take size :: parts size count (bytes.drop size)

/-- `bytes` cut into parts of `size` bytes, the last one possibly shorter. -/
def chunks (size : Nat) (bytes : Bytes) : List Bytes :=
  parts size bytes.length bytes

/-- The bytewise exclusive or of two byte strings, as long as the shorter one. -/
def xor (a b : Bytes) : Bytes :=
  a.zipWith (· ^^^ ·) b

/-- The bytes of a text in UTF-8. -/
def ofText (text : String) : Bytes :=
  text.toByteArray.data.toList

/-- The text that `bytes` hold, when they are well formed UTF-8. -/
def toText? (bytes : Bytes) : Option String :=
  String.fromUTF8? ⟨bytes.toArray⟩

@[simp] theorem length_ofNat (width n : Nat) : (ofNat width n).length = width := by
  induction width generalizing n with
  | zero => rfl
  | succ width ih => simp [ofNat, ih]

theorem splitAt?_eq_some_iff {n : Nat} {bytes front rest : Bytes} :
    splitAt? n bytes = some (front, rest) ↔ front.length = n ∧ bytes = front ++ rest := by
  simp only [splitAt?]
  constructor
  · intro h
    split at h
    · rename_i hn
      cases h
      exact ⟨hn, (List.take_append_drop n bytes).symm⟩
    · simp at h
  · rintro ⟨rfl, rfl⟩
    simp

end Bytes

end SecurityKey
