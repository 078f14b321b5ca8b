import SecurityKey.Proofs.Cbor.Order
import SecurityKey.Proofs.Cbor.Reading
import SecurityKey.Request
import SecurityKey.Response

/-!
# Arguments on the wire

The written form of an argument map holds, under each key, exactly the bytes that the argument has in canonical form by
itself: putting a map in order and writing it commute with taking an argument out of it.
-/

namespace SecurityKey

open Cbor (Value)

/-! ## Maps whose items are written -/

namespace Cbor

/-- The written forms of keys and items, where the items are written already. -/
def writeFields : List (UInt64 × Bytes) → Bytes
  | [] => []
  | (key, item) :: fields => head 0 key.toNat ++ (item ++ writeFields fields)

/-- The written form of a map with unsigned keys, where the items are written already. -/
def writeMap (fields : List (UInt64 × Bytes)) : Bytes :=
  head 5 fields.length ++ writeFields fields

theorem Value.canonical_eq_ok_iff {value : Value} {encoded : Bytes} :
    value.canonical = .ok encoded ↔ value.order.2 = none ∧ value.order.1.write = encoded := by
  unfold Value.canonical Value.ordered
  rcases value.order with ⟨ordered, _ | refused⟩ <;> simp [Except.map]

/-- Keys and values as the entries of a map. -/
def entriesOf (fields : List (UInt64 × Value)) : List (Value × Value) :=
  fields.map fun field => (.unsigned field.1, field.2)

theorem orderEntries_entriesOf {fields : List (UInt64 × Value)} (h : ∀ field ∈ fields, field.2.order.2 = none) :
    orderEntries (entriesOf fields) =
      .ok (fields.map fun field => ⟨head 0 field.1.toNat, .unsigned field.1, field.2.order.1⟩) := by
  rw [orderEntries_eq]
  · simp [entriesOf, keyed, Value.write]
  · intro key mem
    obtain ⟨entry, inside, rfl⟩ := List.mem_map.1 mem
    obtain ⟨field, -, rfl⟩ := List.mem_map.1 inside
    rfl
  · intro entry mem
    obtain ⟨field, inside, rfl⟩ := List.mem_map.1 mem
    exact h field inside

theorem sortEntries_of_ascending {fields : List (UInt64 × Value)} (h : fields.Pairwise fun a b => a.1 < b.1) :
    sortEntries (fields.map fun field => ⟨head 0 field.1.toNat, .unsigned field.1, field.2⟩) = entriesOf fields := by
  unfold sortEntries
  rw [List.mergeSort_of_pairwise]
  · simp [entriesOf]
  · refine List.pairwise_map.2 (h.imp fun {a b} less => ?_)
    exact precedes_head (by decide) b.1.toNat_lt (Nat.le_of_lt (UInt64.lt_iff_toNat_lt.1 less))

theorem writeEntries_entriesOf (fields : List (UInt64 × Value)) :
    writeEntries (entriesOf fields) = writeFields (fields.map fun field => (field.1, field.2.write)) := by
  induction fields with
  | nil => rfl
  | cons field fields ih => simpa [entriesOf, writeEntries, writeFields, Value.write] using ih

theorem write_entriesOf (fields : List (UInt64 × Value)) : (Value.map (entriesOf fields)).write =
    writeMap (fields.map fun field => (field.1, field.2.write)) := by
  rw [Value.write, writeEntries_entriesOf, writeMap, entriesOf, List.length_map, List.length_map]

/-- A map under ascending unsigned keys is in order when its values are. -/
theorem order_entriesOf {fields : List (UInt64 × Value)} (ascending : fields.Pairwise fun a b => a.1 < b.1)
    (h : ∀ field ∈ fields, field.2.order.2 = none) : (Value.map (entriesOf fields)).order =
      (.map (entriesOf (fields.map fun field => (field.1, field.2.order.1))), none) := by
  let ordered := fields.map fun field => (field.1, field.2.order.1)
  have sorted := sortEntries_of_ascending (List.pairwise_map.2 ascending : ordered.Pairwise fun a b => a.1 < b.1)
  simp only [List.map_map, Function.comp_def] at sorted
  rw [Value.order, orderEntries_entriesOf h]
  show (Value.map (sortEntries _), _) = _
  rw [sorted]

/-- The canonical form of a map under ascending unsigned keys holds the canonical form of each value. -/
theorem canonical_entriesOf {fields : List (UInt64 × Value)} (ascending : fields.Pairwise fun a b => a.1 < b.1)
    (h : ∀ field ∈ fields, field.2.order.2 = none) :
    (Value.map (entriesOf fields)).canonical =
      .ok (writeMap (fields.map fun field => (field.1, field.2.order.1.write))) := by
  rw [Value.canonical_eq_ok_iff, order_entriesOf ascending h, write_entriesOf, List.map_map]
  exact ⟨rfl, rfl⟩

end Cbor

/-! ## Positions -/

namespace Request

open Cbor

variable {α β : Type}

/-- Those of a list that are there, numbered by their positions from `position` on. -/
def numbered (position : UInt64) : List (Option α) → List (UInt64 × α)
  | [] => []
  | none :: rest => numbered (position + 1) rest
  | some a :: rest => (position, a) :: numbered (position + 1) rest

theorem packFrom_eq (position : UInt64) (arguments : List (Option Value)) :
    packFrom position arguments = entriesOf (numbered position arguments) := by
  induction arguments generalizing position with
  | nil => rfl
  | cons argument arguments ih => cases argument <;> simp [packFrom, numbered, entriesOf, ih]

theorem numbered_map (f : α → β) (position : UInt64) (items : List (Option α)) :
    numbered position (items.map (Option.map f)) = (numbered position items).map fun field => (field.1, f field.2) := by
  induction items generalizing position with
  | nil => rfl
  | cons item items ih => cases item <;> simp [numbered, ih]

theorem toNat_succ {position : UInt64} (h : position.toNat + 1 < 2 ^ 64) :
    (position + 1).toNat = position.toNat + 1 := by
  rw [UInt64.toNat_add]
  exact Nat.mod_eq_of_lt h

theorem lt_of_mem_numbered_succ {position : UInt64} {items : List (Option α)}
    (h : position.toNat + 1 + items.length ≤ 2 ^ 64) {field : UInt64 × α}
    (mem : field ∈ numbered (position + 1) items) : position < field.1 := by
  induction items generalizing position with
  | nil => simp [numbered] at mem
  | cons item items ih =>
      have next : (position + 1).toNat = position.toNat + 1 := toNat_succ (by simp at h; omega)
      have first : position < position + 1 := UInt64.lt_iff_toNat_lt.2 (by omega)
      have later (mem : field ∈ numbered (position + 1 + 1) items) : position < field.1 :=
        UInt64.lt_trans first (ih (by simp at h; omega) mem)
      cases item with
      | none => exact later mem
      | some a =>
          rcases List.mem_cons.1 mem with rfl | mem
          · exact first
          · exact later mem

theorem pairwise_numbered {position : UInt64} {items : List (Option α)}
    (h : position.toNat + items.length ≤ 2 ^ 64) : (numbered position items).Pairwise fun a b => a.1 < b.1 := by
  induction items generalizing position with
  | nil => exact .nil
  | cons item items ih =>
      have rest : (numbered (position + 1) items).Pairwise fun a b => a.1 < b.1 := by
        cases items with
        | nil => exact .nil
        | cons next items =>
            refine ih ?_
            rw [toNat_succ (by simp at h; omega)]
            simp at h ⊢
            omega
      cases item with
      | none => exact rest
      | some a => exact .cons (fun field mem => lt_of_mem_numbered_succ (by simp at h ⊢; omega) mem) rest

theorem mem_of_mem_numbered {position : UInt64} {items : List (Option α)} {field : UInt64 × α}
    (mem : field ∈ numbered position items) : some field.2 ∈ items := by
  induction items generalizing position with
  | nil => simp [numbered] at mem
  | cons item items ih =>
      cases item with
      | none => exact List.mem_cons_of_mem _ (ih mem)
      | some a =>
          rcases List.mem_cons.1 mem with rfl | mem
          · exact List.mem_cons_self
          · exact List.mem_cons_of_mem _ (ih mem)

/-- The fields of a request with the given arguments: each argument that is there in its own canonical form. -/
def fields (arguments : List (Option Value)) : List (UInt64 × Bytes) :=
  numbered 1 (arguments.map (Option.map fun argument => argument.order.1.write))

theorem pairwise_fields {arguments : List (Option Value)} (bound : arguments.length < 2 ^ 64) :
    (fields arguments).Pairwise fun a b => a.1 < b.1 :=
  pairwise_numbered (by simp; omega)

theorem canonical_eq_ok_iff {value : Value} {encoded : Bytes} :
    canonical value = .ok encoded ↔ value.canonical = .ok encoded := by
  unfold canonical
  cases value.canonical <;> simp [Except.mapError]

theorem encode_of_canonical (command : Command) {arguments : Value} {encoded : Bytes}
    (h : arguments.canonical = .ok encoded) : encode command (some arguments) = .ok (command.byte :: encoded) := by
  simp [encode, canonical_eq_ok_iff.2 h, bind, Except.bind, pure, Except.pure]

theorem encode_of_refused (command : Command) {arguments refused : Value} (h : arguments.canonical = .error refused) :
    encode command (some arguments) = .error (.encoding (.mapKey refused)) := by
  simp [encode, canonical, h, Except.mapError, bind, Except.bind]

theorem authenticated_of_canonical (domain : Bytes) (subCommand : UInt8) {params : Value} {encoded : Bytes}
    (h : params.canonical = .ok encoded) :
    authenticated domain subCommand (some params) = .ok (domain ++ subCommand :: encoded) := by
  simp [authenticated, canonical_eq_ok_iff.2 h, bind, Except.bind, pure, Except.pure]

theorem canonical_cases (value : Value) : (∃ encoded, canonical value = .ok encoded) ∨
    ∃ refused, canonical value = .error (.encoding (.mapKey refused)) := by
  unfold canonical
  cases value.canonical with
  | ok encoded => exact .inl ⟨encoded, rfl⟩
  | error refused => exact .inr ⟨refused, rfl⟩

theorem encode_cases (command : Command) (arguments : Option Value) :
    (∃ encoded, encode command arguments = .ok (command.byte :: encoded)) ∨
      ∃ refused, encode command arguments = .error (.encoding (.mapKey refused)) := by
  cases arguments with
  | none => exact .inl ⟨[], rfl⟩
  | some arguments =>
    rcases canonical_cases arguments with ⟨encoded, written⟩ | ⟨refused, failed⟩
    · exact .inl ⟨encoded, by simp only [encode, written]; rfl⟩
    · exact .inr ⟨refused, by simp only [encode, failed]; rfl⟩

theorem authenticated_cases (domain : Bytes) (subCommand : UInt8) (params : Option Value) :
    (∃ message, authenticated domain subCommand params = .ok message) ∨
      ∃ refused, authenticated domain subCommand params = .error (.encoding (.mapKey refused)) := by
  cases params with
  | none => exact .inl ⟨_, rfl⟩
  | some params =>
    rcases canonical_cases params with ⟨encoded, written⟩ | ⟨refused, failed⟩
    · exact .inl ⟨_, by simp only [authenticated, written]; rfl⟩
    · exact .inr ⟨refused, by simp only [authenticated, failed]; rfl⟩

theorem canonical_pack {arguments : List (Option Value)} (bound : arguments.length < 2 ^ 64)
    (h : ∀ argument, some argument ∈ arguments → argument.order.2 = none) :
    (pack arguments).canonical = .ok (writeMap (fields arguments)) := by
  rw [pack, packFrom_eq, canonical_entriesOf (pairwise_numbered (by simp; omega))
    fun field mem => h _ (mem_of_mem_numbered mem), fields, numbered_map]

theorem encode_pack (command : Command) {arguments : List (Option Value)} (bound : arguments.length < 2 ^ 64)
    (h : ∀ argument, some argument ∈ arguments → argument.order.2 = none) :
    encode command (some (pack arguments)) = .ok (command.byte :: writeMap (fields arguments)) :=
  encode_of_canonical command (canonical_pack bound h)

/-! ## Reading the arguments -/

theorem length_numbered_le (position : UInt64) (items : List (Option α)) :
    (numbered position items).length ≤ items.length := by
  induction items generalizing position with
  | nil => exact Nat.le_refl 0
  | cons item items ih =>
      have later := ih (position + 1)
      cases item with
      | none => exact Nat.le_succ_of_le later
      | some a => exact Nat.succ_le_succ later

theorem lookup_numbered_succ_self {position : UInt64} {items : List (Option α)}
    (h : position.toNat + 1 + items.length ≤ 2 ^ 64) : (numbered (position + 1) items).lookup position = none := by
  refine List.lookup_eq_none_iff.2 fun field mem => ?_
  have above := lt_of_mem_numbered_succ h mem
  simpa using UInt64.ne_of_lt above

/-- The argument at a place is found under its position. -/
theorem lookup_numbered {position : UInt64} {items : List (Option α)} (h : position.toNat + items.length ≤ 2 ^ 64)
    {i : Nat} (inside : i < items.length) :
    (numbered position items).lookup (position + .ofNat i) = items[i] := by
  induction items generalizing position i with
  | nil => simp at inside
  | cons item items ih =>
      rw [List.length_cons] at h inside
      cases i with
      | zero =>
          have here : position + UInt64.ofNat 0 = position := UInt64.add_zero position
          rw [here]
          cases item with
          | none => exact lookup_numbered_succ_self (by omega)
          | some a => exact List.lookup_cons_self
      | succ i =>
          have next : (position + 1).toNat = position.toNat + 1 := toNat_succ (by omega)
          have key : position + .ofNat (i + 1) = position + 1 + .ofNat i := by
            rw [UInt64.ofNat_add, UInt64.add_comm (.ofNat i), ← UInt64.add_assoc]
            rfl
          have later : (numbered (position + 1) items).lookup (position + 1 + .ofNat i) = items[i] :=
            ih (by omega) (by omega)
          rw [key]
          cases item with
          | none => exact later
          | some a =>
              have other : (position + 1 + UInt64.ofNat i == position) = false := by
                refine beq_eq_false_iff_ne.2 fun same => ?_
                have same := congrArg UInt64.toNat same
                rw [UInt64.toNat_add, next, UInt64.toNat_ofNat'] at same
                omega
              simpa [numbered, List.lookup_cons, other] using later

theorem writeMap_fields (arguments : List (Option Value)) : writeMap (fields arguments) =
    (Value.map (entriesOf (numbered 1 (arguments.map (Option.map fun argument => argument.order.1))))).write := by
  rw [write_entriesOf, fields, numbered_map, numbered_map, List.map_map]
  rfl

theorem ofEntries_entriesOf (fields : List (UInt64 × Value)) :
    Response.ofEntries (entriesOf fields) = .ok ⟨fields⟩ := by
  have keyed : (entriesOf fields).mapM (fun entry => do
      return (← Result.ofOption (.mapKey entry.1) entry.1.unsigned?, entry.2) : _ → Result (UInt64 × Value)) =
        .ok fields := by
    induction fields with
    | nil => rfl
    | cons field fields ih =>
        rw [entriesOf, List.map_cons, ← entriesOf, List.mapM_cons, ih]
        rfl
  exact congrArg (fun keyed : Result (List (UInt64 × Value)) => keyed.bind fun keyed => .ok (Response.mk keyed)) keyed

/-- A map with unsigned keys is read back as a response with its fields. -/
theorem ofBytes_write_entriesOf {fields : List (UInt64 × Value)} (bound : fields.length < 2 ^ 64)
    (each : ∀ field ∈ fields, Readable (maxDepth - 1) field.2) :
    Response.ofBytes (Value.map (entriesOf fields)).write = .ok ⟨fields⟩ := by
  have readable : Readable maxDepth (.map (entriesOf fields)) := by
    refine .map ?_ (List.forall_mem_map.2 fun field _ => .unsigned _ field.1) (List.forall_mem_map.2 each)
    rwa [entriesOf, List.length_map]
  have item := readItem_write readable []
  rw [List.append_nil] at item
  unfold Response.ofBytes
  rw [Value.read?, item]
  exact ofEntries_entriesOf _

/-- The arguments of a request are read back, each in its canonical order and under its position. -/
theorem ofBytes_writeMap {arguments : List (Option Value)} (bound : arguments.length < 2 ^ 64)
    (each : ∀ argument, some argument ∈ arguments → Readable (maxDepth - 1) argument.order.1) :
    Response.ofBytes (writeMap (fields arguments)) =
      .ok ⟨numbered 1 (arguments.map (Option.map fun argument => argument.order.1))⟩ := by
  rw [writeMap_fields]
  refine ofBytes_write_entriesOf ?_ fun field mem => ?_
  · exact Nat.lt_of_le_of_lt (length_numbered_le _ _) (by simpa using bound)
  · obtain ⟨argument, given, same⟩ := List.mem_map.1 (mem_of_mem_numbered mem)
    obtain ⟨argument, rfl, ordered⟩ := Option.map_eq_some_iff.1 same
    exact ordered ▸ each argument given

/-- An argument that is in order already, and that can be read as a part of a map. -/
structure IsArgument (argument : Value) : Prop where
  ordered : argument.order = (argument, none)
  readable : Readable (maxDepth - 1) argument

theorem isArgument_ofByte (b : UInt8) : IsArgument (.ofByte b) := ⟨rfl, .unsigned _ _⟩

theorem isArgument_bytes {content : Bytes} (size : content.length < 2 ^ 64) : IsArgument (.bytes content) :=
  ⟨rfl, .bytes _ size⟩

theorem isArgument_text {content : String} (size : (Bytes.ofText content).length < 2 ^ 64) :
    IsArgument (.text content) :=
  ⟨rfl, .text _ size⟩

/-- Arguments that are in order already stay as they are. -/
theorem map_order_of_ordered {arguments : List (Option Value)}
    (ordered : ∀ argument, some argument ∈ arguments → argument.order = (argument, none)) :
    arguments.map (Option.map fun argument => argument.order.1) = arguments := by
  refine (List.map_congr_left fun argument mem => ?_).trans (List.map_id _)
  cases argument with
  | none => rfl
  | some argument => rw [Option.map_some, ordered argument mem, id]

/-- Arguments that are in order already are read back as they are. -/
theorem ofBytes_writeMap_of_ordered {arguments : List (Option Value)} (bound : arguments.length < 2 ^ 64)
    (each : ∀ argument, some argument ∈ arguments → IsArgument argument) :
    Response.ofBytes (writeMap (fields arguments)) = .ok ⟨numbered 1 arguments⟩ := by
  have readable (argument : Value) (mem : some argument ∈ arguments) : Readable (maxDepth - 1) argument.order.1 := by
    rw [(each argument mem).ordered]
    exact (each argument mem).readable
  rw [ofBytes_writeMap bound readable, map_order_of_ordered fun argument mem => (each argument mem).ordered]

/-- Arguments that are in order already make up one argument. -/
theorem isArgument_pack {arguments : List (Option Value)} (bound : arguments.length < 2 ^ 64)
    (ordered : ∀ argument, some argument ∈ arguments → argument.order = (argument, none))
    (readable : ∀ argument, some argument ∈ arguments → Readable (maxDepth - 2) argument) :
    IsArgument (pack arguments) where
  ordered := by
    have each (field : UInt64 × Value) (mem : field ∈ numbered 1 arguments) : field.2.order.2 = none := by
      rw [ordered _ (mem_of_mem_numbered mem)]
    rw [pack, packFrom_eq, order_entriesOf (pairwise_numbered (by simp; omega)) each,
      ← numbered_map fun argument : Value => argument.order.1, map_order_of_ordered ordered]
  readable := by
    show Readable (maxDepth - 2 + 1) _
    rw [pack, packFrom_eq]
    refine .map ?_ (List.forall_mem_map.2 fun field _ => .unsigned _ field.1)
      (List.forall_mem_map.2 fun field mem => readable _ (mem_of_mem_numbered mem))
    rw [entriesOf, List.length_map]
    exact Nat.lt_of_le_of_lt (length_numbered_le 1 arguments) bound

@[simp] theorem isEmpty_writeMap (fields : List (UInt64 × Bytes)) : (writeMap fields).isEmpty = false := by
  rw [writeMap, head_eq]
  rfl

end Request

end SecurityKey
