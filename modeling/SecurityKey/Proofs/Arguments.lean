import SecurityKey.Proofs.Cbor.Reordering

/-!
# Arguments that arrive

An authenticator that reads a request finds under each position the argument that was given there, with its maps in
order, and nothing under any other key.
-/

namespace SecurityKey

open Cbor (Value)

/-! ## Order does not hide a value from its reader -/

namespace Cbor

variable {depth : Nat} {v w : Value}

theorem Reordered.bytes_eq {magnitude : Bytes} (h : Reordered v w) (given : w = .bytes magnitude) :
    v = .bytes magnitude := by
  induction h with
  | refl => exact given
  | trans _ _ first second => exact first (second given)
  | entries => cases given
  | value => cases given
  | item => cases given
  | content => cases given

/-- The order of map entries has no part in whether a value is read back. -/
theorem Reordered.readable (h : Reordered v w) (hv : Readable depth v) : Readable depth w := by
  induction h generalizing depth with
  | refl => exact hv
  | trans _ _ first second => exact second (first hv)
  | entries perm =>
      cases hv with
      | map size keys values =>
          exact .map (perm.length_eq ▸ size) (fun entry mem => keys entry (perm.mem_iff.2 mem))
            fun entry mem => values entry (perm.mem_iff.2 mem)
  | value before key after _ ih =>
      cases hv with
      | map size keys values =>
          simp only [List.forall_mem_append, List.forall_mem_cons] at keys values
          refine .map (by simpa using size) ?_ ?_ <;> simp only [List.forall_mem_append, List.forall_mem_cons]
          · exact keys
          · exact ⟨values.1, ih values.2.1, values.2.2⟩
  | item before after _ ih =>
      cases hv with
      | array size each =>
          simp only [List.forall_mem_append, List.forall_mem_cons] at each
          refine .array (by simpa using size) ?_
          simp only [List.forall_mem_append, List.forall_mem_cons]
          exact ⟨each.1, ih each.2.1, each.2.2⟩
  | content number inner ih =>
      cases hv with
      | tag readable plain =>
          exact .tag (ih readable) fun big magnitude given => plain big magnitude (inner.bytes_eq given)

end Cbor

/-! ## Positions -/

namespace Request

open Cbor

variable {α : Type}

theorem length_numbered (position : UInt64) (items : List (Option α)) :
    (numbered position items).length = items.countP Option.isSome := by
  induction items generalizing position with
  | nil => rfl
  | cons item items ih => cases item <;> simp [numbered, ih]

theorem exists_position {position : UInt64} {items : List (Option α)} {field : UInt64 × α}
    (mem : field ∈ numbered position items) : ∃ i, i < items.length ∧ field.1 = position + .ofNat i := by
  induction items generalizing position with
  | nil => simp [numbered] at mem
  | cons item items ih =>
      have later (mem : field ∈ numbered (position + 1) items) :
          ∃ i, i < (item :: items).length ∧ field.1 = position + .ofNat i := by
        obtain ⟨i, inside, same⟩ := ih mem
        refine ⟨i + 1, by simpa using inside, ?_⟩
        rw [same, UInt64.ofNat_add, UInt64.add_comm (.ofNat i), ← UInt64.add_assoc]
        rfl
      cases item with
      | none => exact later mem
      | some a =>
          rcases List.mem_cons.1 mem with rfl | mem
          · exact ⟨0, by simp, (UInt64.add_zero position).symm⟩
          · exact later mem

/-- The key of the argument at a place, counted from 0. -/
def keyAt (i : Nat) : UInt64 :=
  .ofNat (i + 1)

theorem keyAt_eq (i : Nat) : keyAt i = 1 + .ofNat i := by
  rw [keyAt, UInt64.ofNat_add, UInt64.add_comm]
  rfl

theorem lookup_keyAt {items : List (Option α)} (bound : items.length < 2 ^ 64) {i : Nat} (inside : i < items.length) :
    (numbered 1 items).lookup (keyAt i) = items[i] := by
  rw [keyAt_eq]
  exact lookup_numbered (by simp; omega) inside

theorem lookup_other {items : List (Option α)} {key : UInt64} (other : ∀ i, i < items.length → key ≠ keyAt i) :
    (numbered 1 items).lookup key = none := by
  refine List.lookup_eq_none_iff.2 fun field mem => ?_
  obtain ⟨i, inside, same⟩ := exists_position mem
  rw [same, ← keyAt_eq]
  simpa using other i inside

/-! ## There and back -/

variable {arguments : List (Option Value)}

/-- The written map has the canonical form of each argument under its position. -/
theorem lookup_fields (bound : arguments.length < 2 ^ 64)
    (orderable : ∀ argument, some argument ∈ arguments → Orderable argument) {i : Nat} (inside : i < arguments.length) :
    ((fields arguments).lookup (keyAt i)).map Except.ok = arguments[i].map Value.canonical := by
  rw [fields, lookup_keyAt (by simpa using bound) (by simpa using inside), List.getElem_map, Option.map_map]
  refine Option.map_congr fun argument given => ?_
  exact (orderable argument (given ▸ List.getElem_mem inside)).canonical.symm

/-- Arguments of any number are written under their positions, which ascend on the wire, and are read back: under the
position of each the argument in order, or nothing where it is absent, and nothing under any other key. -/
theorem arguments_arrive (command : Command) (bound : arguments.length < 2 ^ 64)
    (orderable : ∀ argument, some argument ∈ arguments → Orderable argument)
    (readable : ∀ argument, some argument ∈ arguments → Readable (maxDepth - 1) argument) :
    ∃ (data : Bytes) (fields : List (UInt64 × Bytes)) (response : Response),
      encode command (some (pack arguments)) = .ok (command.byte :: data) ∧
      data = writeMap fields ∧ fields.Pairwise (fun a b => a.1 < b.1) ∧
      (∀ i (inside : i < arguments.length),
        (fields.lookup (keyAt i)).map Except.ok = arguments[i].map Value.canonical) ∧
      Response.ofBytes data = .ok response ∧ response.size = arguments.countP Option.isSome ∧
      (∀ i (inside : i < arguments.length),
        (response.get? (keyAt i)).map Except.ok = arguments[i].map Value.ordered) ∧
      ∀ key, (∀ i, i < arguments.length → key ≠ keyAt i) → response.get? key = none := by
  have ordered (argument : Value) (mem : some argument ∈ arguments) : Readable (maxDepth - 1) argument.order.1 :=
    (orderable argument mem).reordered.readable (readable argument mem)
  have encoded := encode_pack command bound fun argument mem => (orderable argument mem).order
  have decoded := ofBytes_writeMap bound ordered
  refine ⟨_, fields arguments, _, encoded, rfl, pairwise_fields bound,
    fun i inside => lookup_fields bound orderable inside, decoded, ?_, fun i inside => ?_, fun key other => ?_⟩
  · rw [Response.size, length_numbered, List.countP_map]
    exact List.countP_congr fun argument _ => by cases argument <;> simp
  · rw [Response.get?, lookup_keyAt (by simpa using bound) (by simpa using inside), List.getElem_map, Option.map_map]
    refine Option.map_congr fun argument given => ?_
    exact (orderable argument (given ▸ List.getElem_mem inside)).ordered.symm
  · exact lookup_other fun i inside => other i (by simpa using inside)

/-- Arguments of which the first one that is there is the twenty-fourth. -/
def sparse : List (Option Value) :=
  List.replicate 23 none ++ [some assembled, none, some (.text "Ö")]

theorem readable_assembled : Readable (maxDepth - 1) assembled := by
  have strings : Readable 254 (.map [(.text "name", .text "Ö"), (.text "id", .bytes [1, 2])]) := by
    refine .map (by decide) ?_ ?_ <;> simp only [List.forall_mem_cons, List.not_mem_nil, false_implies, implies_true]
    · exact ⟨.text _ (by decide), .text _ (by decide), trivial⟩
    · exact ⟨.text _ (by decide), .bytes _ (by decide), trivial⟩
  have inner : Readable 252 (.map [(.bytes [0xFF], .float 0x8000000000000000), (.negative 0, .null)]) := by
    refine .map (by decide) ?_ ?_ <;> simp only [List.forall_mem_cons, List.not_mem_nil, false_implies, implies_true]
    · exact ⟨.bytes _ (by decide), .negative _ 0, trivial⟩
    · exact ⟨.float _ _, .null _, trivial⟩
  have items : Readable 253 (.array [.map [(.bytes [0xFF], .float 0x8000000000000000), (.negative 0, .null)]]) :=
    .array (by decide) (List.forall_mem_singleton.2 inner)
  change Readable (254 + 1) assembled
  refine .map (by decide) ?_ ?_ <;> simp only [List.forall_mem_cons, List.not_mem_nil, false_implies, implies_true]
  · exact ⟨.text _ (by decide), .unsigned _ 300, trivial⟩
  · exact ⟨strings, .tag items (by simp), trivial⟩

theorem arguments_arrive_sparse : (∀ argument, some argument ∈ sparse → Orderable argument) ∧
    (∀ argument, some argument ∈ sparse → Readable (maxDepth - 1) argument) ∧
    ∃ data response, encode .config (some (pack sparse)) = .ok (0x0D :: data) ∧ Response.ofBytes data = .ok response ∧
      response.size = 2 ∧ (response.get? 24).map Except.ok = some assembled.ordered ∧ response.get? 25 = none ∧
      response.get? 26 = some (.text "Ö") ∧ response.get? 0 = none ∧ response.get? 27 = none := by
  have cases_mem {argument : Value} (mem : some argument ∈ sparse) : argument = assembled ∨ argument = .text "Ö" := by
    simpa [sparse] using mem
  have orderable (argument : Value) (mem : some argument ∈ sparse) : Orderable argument := by
    rcases cases_mem mem with rfl | rfl
    · exact distinctlyKeyed_assembled.orderable
    · exact .atom rfl
  have readable (argument : Value) (mem : some argument ∈ sparse) : Readable (maxDepth - 1) argument := by
    rcases cases_mem mem with rfl | rfl
    · exact readable_assembled
    · exact .text _ (by decide)
  obtain ⟨data, fields, response, encoded, -, -, -, decoded, size, found, other⟩ :=
    arguments_arrive .config (by decide) orderable readable
  refine ⟨orderable, readable, data, response, encoded, decoded, size, found 23 (by decide), ?_, ?_,
    other 0 (by decide), other 27 (by decide)⟩
  · exact Option.map_eq_none_iff.1 (found 24 (by decide))
  · have last : (response.get? 26).map Except.ok = some (Value.ordered (.text "Ö")) := found 25 (by decide)
    simpa [Value.ordered, Value.order] using last

end Request

end SecurityKey
