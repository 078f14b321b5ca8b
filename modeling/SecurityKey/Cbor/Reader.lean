import SecurityKey.Cbor.FloatWidth
import SecurityKey.Cbor.Value

/-!
# Reading CBOR

A reader takes an item from the front of a byte string. It accepts longer heads and indefinite lengths beside the
written form, and refuses items nested more than 256 deep.
-/

namespace SecurityKey.Cbor

/-- What is left of a byte string after a part of it was taken. -/
abbrev Reader (α : Type) := StateT Bytes Option α

namespace Reader

/-- The next byte. -/
def byte : Reader UInt8
  | [] => none
  | b :: rest => some (b, rest)

/-- The next `n` bytes. -/
def take (n : Nat) : Reader Bytes :=
  fun input => Bytes.splitAt? n input

/-- The number written in the next `width` bytes. -/
def number (width : Nat) : Reader Nat := do
  return Bytes.toNat (← take width)

/-- Applies a reader `n` times. -/
def times (item : Reader α) : (n : Nat) → Reader (List α)
  | 0 => pure []
  | n + 1 => do
    let first ← item
    return first :: (← times item n)

/-- Applies a reader up to the byte that ends an indefinite length, `fuel` times at most. -/
def untilBreak (item : Reader α) : (fuel : Nat) → Reader (List α)
  | 0 => failure
  | fuel + 1 => fun input =>
    match input with
    | 0xff :: rest => some ([], rest)
    | _ => (do
        let first ← item
        return first :: (← untilBreak item fuel)) input

end Reader

/-- The argument of an item's head; an indefinite length has none. -/
inductive Argument where
  | number (n : Nat)
  | indefinite

open Reader in
/-- The head of an item: its major type, its additional information and its argument. -/
def readHead : Reader (Nat × Nat × Argument) := do
  let initial := (← byte).toNat
  let major := initial / 32
  let information := initial % 32
  if information < 24 then return (major, information, .number information)
  else if information = 24 then return (major, information, .number (← number 1))
  else if information = 25 then return (major, information, .number (← number 2))
  else if information = 26 then return (major, information, .number (← number 4))
  else if information = 27 then return (major, information, .number (← number 8))
  else if information = 31 then return (major, information, .indefinite)
  else failure

/-- A part of a string of the given major type, which must have a definite length. -/
def readChunk (major : Nat) : Reader Bytes := do
  match ← readHead with
  | (m, _, .number n) => if m = major then Reader.take n else failure
  | (_, _, .indefinite) => failure

/-- As many items as `argument` says. -/
def readSequence (item : Reader α) : Argument → Reader (List α)
  | .number n => Reader.times item n
  | .indefinite => fun input => Reader.untilBreak item input.length input

/-- The integer of a bignum of at most 16 bytes, or the bignum without leading zeros when the integer needs more
than 64 bits. A negative bignum has to fit 128 bits with its sign. -/
def bignum? (negative : Bool) (magnitude : Bytes) : Option Value :=
  let n := Bytes.toNat magnitude
  if n < 0x10000000000000000 then
    some (if negative then .negative (.ofNat n) else .unsigned (.ofNat n))
  else if negative ∧ 0x80000000000000000000000000000000 ≤ n then
    none
  else
    some (.tag (if negative then 3 else 2) (.bytes (magnitude.dropWhile (· == 0))))

/-- The bignum that follows tag 2 or 3, when a byte string of at most 16 bytes follows it. -/
def readBignum (number : Nat) : Reader (Option Value) := fun input =>
  if number = 2 ∨ number = 3 then
    match readHead input with
    | some ((2, _, .number n), rest) =>
      if n ≤ 16 then do
        let (magnitude, rest) ← Reader.take n rest
        return (some (← bignum? (number == 3) magnitude), rest)
      else some (none, input)
    | _ => some (none, input)
  else some (none, input)

/-- An item without parts of its own. -/
def readSimple (information : Nat) : Argument → Reader Value
  | .number n =>
    if information = 25 then return .float (.ofNat (FloatWidth.half.widen n))
    else if information = 26 then return .float (.ofNat (FloatWidth.single.widen n))
    else if information = 27 then return .float (.ofNat n)
    else if n = 20 then return .bool false
    else if n = 21 then return .bool true
    else if n = 22 ∨ n = 23 then return .null
    else failure
  | .indefinite => failure

/-- An item with at most `depth` levels of nesting. -/
def readItem (depth : Nat) : Reader Value := do
  match ← readHead with
  | (0, _, .number n) => return .unsigned (.ofNat n)
  | (1, _, .number n) => return .negative (.ofNat n)
  | (2, _, .number n) => return .bytes (← Reader.take n)
  | (2, _, .indefinite) => return .bytes (← readSequence (readChunk 2) .indefinite).flatten
  | (3, _, .number n) => return .text (← Bytes.toText? (← Reader.take n))
  | (3, _, .indefinite) =>
    let chunks ← readSequence (do Bytes.toText? (← readChunk 3)) .indefinite
    return .text (String.join chunks)
  | (4, _, length) =>
    match depth with
    | 0 => failure
    | depth + 1 => return .array (← readSequence (readItem depth) length)
  | (5, _, length) =>
    match depth with
    | 0 => failure
    | depth + 1 => return .map (← readSequence (do return (← readItem depth, ← readItem depth)) length)
  | (6, _, .number n) =>
    match ← readBignum n with
    | some value => return value
    | none =>
      match depth with
      | 0 => failure
      | depth + 1 => return .tag (.ofNat n) (← readItem depth)
  | (7, information, argument) => readSimple information argument
  | _ => failure

/-- The deepest nesting that is read. -/
def maxDepth : Nat := 256

/-- The value of the item at the front of a byte string, whatever follows it. -/
def Value.read? (input : Bytes) : Option Value :=
  (readItem maxDepth input).map (·.1)

end SecurityKey.Cbor
