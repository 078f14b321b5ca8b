import SecurityKey.Cbor.Writer

/-!
# Canonical order

In the canonical form the entries of every map are in the order of their written keys: shorter ones first, and keys of
one length byte by byte. Keys are integers, texts and byte strings; any other key is refused.

A value is put in order in place. `Value.order` gives the value that is left, also when a key was refused: the
entries of a map are taken out before they are put back in order, so the map that holds the refused key, and every map
around it, is left without entries.
-/

namespace SecurityKey.Cbor

/-- Whether a written key comes before another one or is the same. -/
def precedes (a b : Bytes) : Bool :=
  a.length < b.length || (a.length == b.length && decide (a ≤ b))

/-- The written form of a key that has a place in the order. -/
def Value.keyForm? (key : Value) : Option Bytes :=
  match key with
  | .unsigned _ | .negative _ | .bytes _ | .text _ => some key.write
  | _ => none

/-- An entry of a map with the written form of its key. -/
structure KeyedEntry where
  form : Bytes
  key : Value
  value : Value

/-- The entries in the order of their written keys; those with the same key keep their order. -/
def sortEntries (entries : List KeyedEntry) : List (Value × Value) :=
  (entries.mergeSort fun a b => precedes a.form b.form).map fun entry => (entry.key, entry.value)

mutual

/-- Puts every map in a value in order: the value left in place, and the key that was refused. -/
def Value.order : Value → Value × Option Value
  | .array items =>
    let (items, refused) := orderItems items
    (.array items, refused)
  | .map entries =>
    match orderEntries entries with
    | .ok keyed => (.map (sortEntries keyed), none)
    | .error refused => (.map [], some refused)
  | .tag number content =>
    let (content, refused) := content.order
    (.tag number content, refused)
  | value => (value, none)

/-- Puts every map in the items of an array in order, up to the first item with a refused key. -/
def orderItems : List Value → List Value × Option Value
  | [] => ([], none)
  | item :: items =>
    match item.order with
    | (item, some refused) => (item :: items, some refused)
    | (item, none) =>
      let (items, refused) := orderItems items
      (item :: items, refused)

/-- The entries of a map with their values in order and their keys written, or the first key that is refused. -/
def orderEntries : List (Value × Value) → Except Value (List KeyedEntry)
  | [] => .ok []
  | (key, value) :: entries =>
    match value.order with
    | (_, some refused) => .error refused
    | (value, none) =>
      match key.keyForm? with
      | none => .error key
      | some form =>
        match orderEntries entries with
        | .error refused => .error refused
        | .ok keyed => .ok (⟨form, key, value⟩ :: keyed)

end

/-- A value with every map in order, or the key that was refused. -/
def Value.ordered (value : Value) : Except Value Value :=
  match value.order with
  | (value, none) => .ok value
  | (_, some refused) => .error refused

/-- The canonical form of a value, or the key that was refused. -/
def Value.canonical (value : Value) : Except Value Bytes :=
  value.ordered.map Value.write

end SecurityKey.Cbor
