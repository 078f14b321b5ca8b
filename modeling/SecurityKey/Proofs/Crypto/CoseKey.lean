import Mathlib.Tactic.SplitIfs
import SecurityKey.Crypto.CoseKey
import SecurityKey.Crypto.P256
import SecurityKey.Proofs.Cbor.Value
import SecurityKey.Proofs.Entries

/-!
# Keys on the way

A public key that is written as a map is the same key when the map is read, before and after the map went over a wire.
Reading takes a map exactly when it holds a P-256 key with both of its coordinates.
-/

namespace SecurityKey.Crypto

open Cbor

theorem KeyType.ofValue?_eq_ellipticCurve_iff {value : Value} :
    KeyType.ofValue? value = some .ellipticCurve ↔ value = .unsigned 2 := by
  constructor
  · intro h
    cases value with
    | unsigned n =>
        have two : n.toNat = 2 := by
          simp only [KeyType.ofValue?] at h
          generalize n.toNat = number at h
          rcases number with _ | _ | _ | _ | _ | _ | _ | number <;> first | rfl | cases h
        rw [← UInt64.ofNat_toNat (x := n), two]
        rfl
    | text name => simp [KeyType.ofValue?] at h
    | _ => cases h
  · rintro rfl
    rfl

namespace CoseKey

variable {algorithm : Int64} {point coordinates : Bytes} {key : Value}

/-! ## What a key holds -/

/-- The value that a map of parameters holds under a label. -/
def parameter? (key : Value) (label : Label) : Option Value := do
  let entries ← key.map?
  (entries.find? fun entry => Label.ofValue? entry.1 == some label).map (·.2)

/-- An entry with its label read. -/
def labelled? (entry : Value × Value) : Option (Label × Value) :=
  (Label.ofValue? entry.1).map (·, entry.2)

variable {entries : List (Value × Value)} {parameters : List (Label × Value)}

theorem parameters?_map_eq_some_iff : parameters? (.map entries) = some parameters ↔
    entries.mapM labelled? = some parameters ∧ (parameters.map Prod.fst).Nodup ∧
      ∀ parameter ∈ parameters, isWellFormed parameter := by
  have step : (fun entry : Value × Value => do return (← Label.ofValue? entry.1, entry.2)) = labelled? := by
    funext entry
    unfold labelled?
    cases Label.ofValue? entry.1 <;> rfl
  show (entries.mapM (fun entry => do return (← Label.ofValue? entry.1, entry.2)) >>= fun parameters =>
    if (parameters.map (·.1)).Nodup ∧ parameters.all isWellFormed then pure parameters else none) = _ ↔ _
  rw [step, Option.bind_eq_bind, Option.bind_eq_some_iff]
  constructor
  · rintro ⟨read, labels, h⟩
    split_ifs at h with formed
    cases h
    exact ⟨labels, formed.1, List.all_eq_true.1 formed.2⟩
  · rintro ⟨labels, distinct, formed⟩
    exact ⟨parameters, labels, if_pos ⟨distinct, List.all_eq_true.2 formed⟩⟩

theorem lookup_of_mapM_labelled? (h : entries.mapM labelled? = some parameters) (label : Label) :
    parameters.lookup label = parameter? (.map entries) label := by
  rw [mapM_eq_some_iff] at h
  show _ = (entries.find? fun entry => Label.ofValue? entry.1 == some label).map (·.2)
  induction entries generalizing parameters with
  | nil =>
      cases parameters with
      | nil => rfl
      | cons => simp at h
  | cons entry entries ih =>
      cases parameters with
      | nil => simp at h
      | cons parameter parameters =>
          simp only [List.map_cons, List.cons.injEq] at h
          obtain ⟨found, read, rfl⟩ : ∃ found, Label.ofValue? entry.1 = some found ∧ (found, entry.2) = parameter := by
            simpa [labelled?] using h.1
          rw [List.lookup_cons, List.find?_cons, read]
          by_cases same : found = label
          · simp [same]
          · rw [beq_eq_false_iff_ne.2 fun h => same h.symm, beq_eq_false_iff_ne.2 fun h => same (Option.some.inj h)]
            exact ih h.2

theorem lookup_of_parameters? (h : parameters? key = some parameters) (label : Label) :
    parameters.lookup label = parameter? key label := by
  cases key with
  | map entries => exact lookup_of_mapM_labelled? (parameters?_map_eq_some_iff.1 h).1 label
  | _ => cases h

theorem typed?_eq_some_iff {keyType : KeyType} : typed? key = some (keyType, parameters) ↔
    parameters? key = some parameters ∧ (parameter? key (.number 1)).bind KeyType.ofValue? = some keyType ∧
      keyType ≠ .reserved := by
  unfold typed?
  simp only [Option.bind_eq_bind, Option.bind_eq_some_iff]
  constructor
  · rintro ⟨read, given, found, type, h⟩
    split_ifs at h with known
    cases h
    rw [← lookup_of_parameters? given]
    exact ⟨given, type, known⟩
  · rintro ⟨given, type, known⟩
    rw [← lookup_of_parameters? given] at type
    exact ⟨parameters, given, keyType, type, if_neg known⟩

/-! ## Reading -/

/-- The P-256 key with the coordinates `x` and `y`, under the labels where it is looked for. -/
structure Holds (key : Value) (x y : Bytes) : Prop where
  type : parameter? key (.number 1) = some (.unsigned 2)
  curve : parameter? key (.number (-1)) = some (.unsigned 1)
  x : parameter? key (.number (-2)) = some (.bytes x)
  y : parameter? key (.number (-3)) = some (.bytes y)

theorem coordinate_eq_ok_iff {which : Coordinate} {value : Option Value} {bytes : Bytes} :
    coordinate which value = .ok bytes ↔ value = some (.bytes bytes) ∧ bytes.length = 32 := by
  unfold coordinate
  constructor
  · intro h
    split at h
    · rename_i found given
      split_ifs at h with length
      cases h
      obtain ⟨value, rfl, same⟩ := Option.bind_eq_some_iff.1 given
      exact ⟨congrArg some (Value.bytes?_eq_some_iff.1 same), length⟩
    · cases h
  · rintro ⟨rfl, length⟩
    simp [Value.bytes?, length]

/-- A map is read as a point exactly when it holds a P-256 key with two coordinates of 32 bytes. -/
theorem toPoint_eq_ok_iff : toPoint key = .ok point ↔ (parameters? key).isSome ∧
    ∃ x y, Holds key x y ∧ x.length = 32 ∧ y.length = 32 ∧ point = 4 :: (x ++ y) := by
  constructor
  · intro h
    unfold toPoint at h
    split at h
    · cases h
    · rename_i keyType parameters typed
      obtain ⟨given, type, -⟩ := typed?_eq_some_iff.1 typed
      simp only [lookup_of_parameters? given] at h
      split_ifs at h with other curve curve
      · cases h
      · cases h
      · cases h
      · obtain rfl := Decidable.not_not.1 other
        obtain ⟨number, isCurve, one⟩ := Option.bind_eq_some_iff.1 (Decidable.not_not.1 curve)
        obtain ⟨value, isType, two⟩ := Option.bind_eq_some_iff.1 type
        rw [Value.unsigned?_eq_some_iff.1 one] at isCurve
        rw [KeyType.ofValue?_eq_ellipticCurve_iff.1 two] at isType
        cases first : coordinate .x (parameter? key (.number (-2))) with
        | error fault => rw [first] at h; cases h
        | ok x =>
            cases second : coordinate .y (parameter? key (.number (-3))) with
            | error fault => rw [first, second] at h; cases h
            | ok y =>
                rw [first, second] at h
                obtain ⟨isX, hx⟩ := coordinate_eq_ok_iff.1 first
                obtain ⟨isY, hy⟩ := coordinate_eq_ok_iff.1 second
                exact ⟨Option.isSome_iff_exists.2 ⟨parameters, given⟩, x, y, ⟨isType, isCurve, isX, isY⟩, hx, hy,
                  (Except.ok.inj h).symm⟩
  · rintro ⟨formed, x, y, holds, hx, hy, rfl⟩
    obtain ⟨parameters, given⟩ := Option.isSome_iff_exists.1 formed
    have typed : typed? key = some (.ellipticCurve, parameters) := by
      refine typed?_eq_some_iff.2 ⟨given, ?_, by decide⟩
      rw [holds.type]
      rfl
    unfold toPoint
    rw [typed]
    simp only [lookup_of_parameters? given, holds.curve, holds.x, holds.y, coordinate_eq_ok_iff.2 ⟨rfl, hx⟩,
      coordinate_eq_ok_iff.2 ⟨rfl, hy⟩]
    rfl

/-! ## Written keys -/

theorem ofPoint_eq_ok_iff : ofPoint algorithm point = .ok key ↔ ∃ coordinates, point = 4 :: coordinates ∧
    coordinates.length = 64 ∧ key = .map [(.unsigned 1, .unsigned 2), (.unsigned 3, .ofInt64 algorithm),
      (.negative 0, .unsigned 1), (.negative 1, .bytes (coordinates.take 32)),
      (.negative 2, .bytes (coordinates.drop 32))] := by
  unfold ofPoint
  constructor
  · intro h
    split at h
    · rename_i coordinates
      split at h
      · rename_i length
        exact ⟨coordinates, rfl, length, (Except.ok.inj h).symm⟩
      · cases h
    · cases h
  · rintro ⟨coordinates, rfl, length, rfl⟩
    simp [length]

theorem exists_ofPoint (key : P256.PrivateKey) : ∃ value, ofPoint keyAgreement key.publicKey = .ok value :=
  ⟨_, ofPoint_eq_ok_iff.2 ⟨_, rfl, by simp, rfl⟩⟩

/-- A written key holds the two halves of what follows the first byte of its point. -/
theorem holds_ofPoint (h : ofPoint algorithm point = .ok key) :
    Holds key ((point.drop 1).take 32) ((point.drop 1).drop 32) := by
  obtain ⟨coordinates, rfl, -, rfl⟩ := ofPoint_eq_ok_iff.1 h
  constructor <;> rfl

theorem isAlgorithm_ofInt64 (known : algorithm ∈ algorithms) : isAlgorithm (.ofInt64 algorithm) := by
  have number := Value.signed?_ofInt64 algorithm
  unfold isAlgorithm
  split
  · rfl
  · simp [number, known]

/-- The point that a written key reads as is the one it was written for. -/
theorem toPoint_ofPoint (known : algorithm ∈ algorithms) (h : ofPoint algorithm point = .ok key) :
    toPoint key = .ok point := by
  have holds := holds_ofPoint h
  obtain ⟨coordinates, rfl, length, rfl⟩ := ofPoint_eq_ok_iff.1 h
  refine toPoint_eq_ok_iff.2 ⟨?_, _, _, holds, by simp [length], by simp [length], by simp⟩
  let parameters : List (Label × Value) := [(.number 1, .unsigned 2), (.number 3, .ofInt64 algorithm),
    (.number (-1), .unsigned 1), (.number (-2), .bytes (coordinates.take 32)),
    (.number (-3), .bytes (coordinates.drop 32))]
  have distinct : (parameters.map Prod.fst).Nodup := by
    show [Label.number 1, .number 3, .number (-1), .number (-2), .number (-3)].Nodup
    decide
  have formed : ∀ parameter ∈ parameters, isWellFormed parameter := by
    simp only [parameters, List.forall_mem_cons, List.not_mem_nil, false_implies, implies_true, and_true]
    exact ⟨rfl, isAlgorithm_ofInt64 known, rfl, rfl, rfl⟩
  exact Option.isSome_iff_exists.2 ⟨parameters, parameters?_map_eq_some_iff.2 ⟨rfl, distinct, formed⟩⟩

/-! ## Over the wire -/

/-- A written key is in order already. -/
theorem order_ofPoint (h : ofPoint algorithm point = .ok key) : key.order = (key, none) := by
  obtain ⟨coordinates, rfl, length, rfl⟩ := ofPoint_eq_ok_iff.1 h
  let written : List KeyedEntry := [⟨[0x01], .unsigned 1, .unsigned 2⟩, ⟨[0x03], .unsigned 3, .ofInt64 algorithm⟩,
    ⟨[0x20], .negative 0, .unsigned 1⟩, ⟨[0x21], .negative 1, .bytes (coordinates.take 32)⟩,
    ⟨[0x22], .negative 2, .bytes (coordinates.drop 32)⟩]
  have forms : (written.map KeyedEntry.form).Pairwise fun a b => precedes a b := by
    show [[0x01], [0x03], [0x20], [0x21], [0x22]].Pairwise _
    decide
  have ascending : written.Pairwise fun a b => precedes a.form b.form := List.pairwise_map.1 forms
  have same : sortEntries written = [(.unsigned 1, .unsigned 2), (.unsigned 3, .ofInt64 algorithm),
      (.negative 0, .unsigned 1), (.negative 1, .bytes (coordinates.take 32)),
      (.negative 2, .bytes (coordinates.drop 32))] := by
    rw [sortEntries, List.mergeSort_of_pairwise ascending]
    rfl
  rw [Value.order_map (by simp [Value.isKey]) (by simp [Value.order])]
  simp only [List.map_cons, List.map_nil, keyed, Value.order_ofInt64]
  exact congrArg (fun entries => (Value.map entries, none)) same

theorem readable_ofPoint (h : ofPoint algorithm point = .ok key) (depth : Nat) : Readable (depth + 1) key := by
  obtain ⟨coordinates, rfl, length, rfl⟩ := ofPoint_eq_ok_iff.1 h
  refine .map (by simp) (fun entry mem => ?_) fun entry mem => ?_
  · simp only [List.mem_cons, List.not_mem_nil, or_false] at mem
    rcases mem with rfl | rfl | rfl | rfl | rfl <;> constructor
  · simp only [List.mem_cons, List.not_mem_nil, or_false] at mem
    rcases mem with rfl | rfl | rfl | rfl | rfl
    · exact .unsigned depth 2
    · exact Value.readable_ofInt64 depth algorithm
    · exact .unsigned depth 1
    · exact .bytes depth (by simp [length])
    · exact .bytes depth (by simp [length])

end CoseKey

end SecurityKey.Crypto
