import SecurityKey.Proofs.Pin.Protocol
import SecurityKey.Proofs.Request

/-!
# What a key is read from

Points and the maps they are written as stand for each other. Of a map only the parameters of a P-256 key count: their
order does not, and neither do parameters under labels of no meaning. A map that lacks one of them makes no key.
-/

namespace SecurityKey.Crypto.CoseKey

open Cbor

variable {entries more others : List (Value × Value)} {given given' : List (Label × Value)} {point : Bytes}
  {key : Value}

/-! ## Further parameters -/

/-- The labels under which a reader of a key looks for something. -/
def readLabels : List Label :=
  ([1, 2, 3, 4, 5, -1, -2, -3] : List Int64).map .number

/-- Entries beside others: their labels are read, pairwise distinct and not among those of the others, and nothing is
looked for under them. -/
structure Further (entries more : List (Value × Value)) : Prop where
  labelled : ∀ entry ∈ more, ∃ label, Label.ofValue? entry.1 = some label ∧ label ∉ readLabels
  distinct : (more.map fun entry => Label.ofValue? entry.1).Nodup
  fresh : ∀ entry ∈ more, ∀ other ∈ entries, Label.ofValue? other.1 ≠ Label.ofValue? entry.1

theorem map_label (h : entries.mapM labelled? = some given) :
    (given.map Prod.fst).map some = entries.map fun entry => Label.ofValue? entry.1 := by
  have labels := congrArg (List.map (Option.map Prod.fst)) (mapM_eq_some_iff.1 h)
  have first : Option.map Prod.fst ∘ labelled? = fun entry => Label.ofValue? entry.1 := by
    funext entry
    simp only [labelled?, Function.comp_apply, Option.map_map]
    exact Option.map_id'
  simp only [List.map_map, first] at labels
  rw [labels, List.map_map]
  rfl

theorem Further.not_mem (h : Further entries more) (read : more.mapM labelled? = some given) :
    ∀ label ∈ given.map Prod.fst, label ∉ readLabels := by
  intro label mem
  have mem' : some label ∈ more.map fun entry => Label.ofValue? entry.1 := map_label read ▸ List.mem_map_of_mem mem
  obtain ⟨entry, inside, same⟩ := List.mem_map.1 mem'
  obtain ⟨label', same', unread⟩ := h.labelled entry inside
  rw [same] at same'
  exact Option.some.inj same' ▸ unread

theorem Further.nodup (h : Further entries more) (read : entries.mapM labelled? = some given)
    (read' : more.mapM labelled? = some given') (distinct : (given.map Prod.fst).Nodup) :
    ((given ++ given').map Prod.fst).Nodup := by
  rw [List.map_append]
  have distinct' : (given'.map Prod.fst).Nodup := .of_map some (map_label read' ▸ h.distinct)
  refine List.nodup_append.2 ⟨distinct, distinct', fun label mem label' mem' same => ?_⟩
  have left : some label ∈ entries.map fun entry => Label.ofValue? entry.1 := map_label read ▸ List.mem_map_of_mem mem
  have right : some label' ∈ more.map fun entry => Label.ofValue? entry.1 := map_label read' ▸ List.mem_map_of_mem mem'
  obtain ⟨other, inside, first⟩ := List.mem_map.1 left
  obtain ⟨entry, inside', second⟩ := List.mem_map.1 right
  exact h.fresh entry inside' other inside (by rw [first, second, same])

theorem isWellFormed_of_not_mem {parameter : Label × Value} (unread : parameter.1 ∉ readLabels) :
    isWellFormed parameter := by
  have other (label : Label) (isRead : label ∈ readLabels) : parameter.1 ≠ label := fun same => unread (same ▸ isRead)
  unfold isWellFormed
  split
  · exact absurd ‹_› (other (.number 1) (by decide))
  · exact absurd ‹_› (other (.number 2) (by decide))
  · exact absurd ‹_› (other (.number 3) (by decide))
  · exact absurd ‹_› (other (.number 4) (by decide))
  · exact absurd ‹_› (other (.number 5) (by decide))
  · rfl

/-- With further entries, and in any order, a map has the same parameters where they are looked for. -/
theorem Further.exists_parameters? (h : Further entries more) (perm : others.Perm (entries ++ more))
    (read : parameters? (.map entries) = some given) : ∃ given', parameters? (.map others) = some given' ∧
      ∀ label ∈ readLabels, given'.lookup label = given.lookup label := by
  obtain ⟨labels, distinct, formed⟩ := parameters?_map_eq_some_iff.1 read
  obtain ⟨extra, labels'⟩ : ∃ extra, more.mapM labelled? = some extra := by
    refine exists_mapM fun entry mem => ?_
    obtain ⟨label, found, -⟩ := h.labelled entry mem
    exact ⟨(label, entry.2), by simp [labelled?, found]⟩
  have both : (entries ++ more).mapM labelled? = some (given ++ extra) := by
    rw [mapM_eq_some_iff, List.map_append, mapM_eq_some_iff.1 labels, mapM_eq_some_iff.1 labels', List.map_append]
  have nodup := h.nodup labels labels' distinct
  have unread := h.not_mem labels'
  obtain ⟨given', labels'', perm'⟩ := exists_mapM_of_perm perm both
  have nodup' : (given'.map Prod.fst).Nodup := (perm'.map Prod.fst).nodup_iff.2 nodup
  refine ⟨given', parameters?_map_eq_some_iff.2 ⟨labels'', nodup', fun parameter mem => ?_⟩, fun label mem => ?_⟩
  · rcases List.mem_append.1 (perm'.mem_iff.1 mem) with mem | mem
    · exact formed parameter mem
    · exact isWellFormed_of_not_mem (unread _ (List.mem_map_of_mem mem))
  · have none : extra.lookup label = none := lookup_eq_none_iff.2 fun inside => unread label inside mem
    rw [lookup_perm perm' nodup', List.lookup_append, none, Option.or_none]

/-- What is no map of parameters does not become one by more entries. -/
theorem exists_parameters?_of_perm (perm : others.Perm (entries ++ more))
    (read : parameters? (.map others) = some given) : ∃ given', parameters? (.map entries) = some given' := by
  obtain ⟨labels, distinct, formed⟩ := parameters?_map_eq_some_iff.1 read
  obtain ⟨both, labels', perm'⟩ := exists_mapM_of_perm perm.symm labels
  rw [mapM_eq_some_iff, List.map_append] at labels'
  obtain ⟨front, back, rfl, first, -⟩ := List.append_eq_map_iff.1 labels'
  have nodup : ((front ++ back).map Prod.fst).Nodup := (perm'.map Prod.fst).nodup_iff.2 distinct
  rw [List.map_append] at nodup
  refine ⟨front, parameters?_map_eq_some_iff.2 ⟨mapM_eq_some_iff.2 first.symm, nodup.of_append_left, ?_⟩⟩
  exact fun parameter mem => formed parameter (perm'.mem_iff.1 (List.mem_append_left back mem))

/-- Reading a key does not depend on the order of the entries, nor on further ones. -/
theorem Further.toPoint_eq (h : Further entries more) (perm : others.Perm (entries ++ more)) :
    toPoint (.map others) = toPoint (.map entries) := by
  cases read : parameters? (.map entries) with
  | none =>
      have read' : parameters? (.map others) = none := by
        cases read' : parameters? (.map others) with
        | none => rfl
        | some given =>
            obtain ⟨given', impossible⟩ := exists_parameters?_of_perm perm read'
            rw [read] at impossible
            cases impossible
      simp [toPoint, typed?, read, read']
  | some given =>
      obtain ⟨given', read', same⟩ := h.exists_parameters? perm read
      -- Nothing is looked up but the type, the curve and the coordinates.
      have type := same (.number 1) (by decide)
      unfold toPoint typed?
      simp only [read, read', Option.bind_eq_bind, Option.bind_some, type]
      cases (given.lookup (.number 1)).bind KeyType.ofValue? with
      | none => rfl
      | some keyType =>
          simp only [Option.bind_some]
          by_cases reserved : keyType = .reserved
          · simp [reserved]
          · simp only [reserved, if_false, pure, same (.number (-1)) (by decide), same (.number (-2)) (by decide),
              same (.number (-3)) (by decide)]

/-! ## Points and maps -/

/-- The uncompressed form of a P-256 point. -/
def IsUncompressed (point : Bytes) : Prop :=
  point.length = 65 ∧ point.head? = some 4

/-- The labels of the parameters that make a P-256 key: its type, its curve and its coordinates. -/
def keyLabels : List Label :=
  ([1, -1, -2, -3] : List Int64).map .number

/-- A key has a byte string of the width of a coordinate under a label. -/
def HasCoordinate (key : Value) (label : Label) : Prop :=
  ∃ coordinate, parameter? key label = some (.bytes coordinate) ∧ coordinate.length = 32

theorem isUncompressed_iff :
    IsUncompressed point ↔ ∃ coordinates, point = 4 :: coordinates ∧ coordinates.length = 64 := by
  constructor
  · rintro ⟨length, first⟩
    cases point with
    | nil => cases first
    | cons b coordinates => exact ⟨coordinates, by rw [Option.some.inj first], by simpa using length⟩
  · rintro ⟨coordinates, rfl, length⟩
    exact ⟨by simp [length], rfl⟩

theorem exists_ofPoint_iff (algorithm : Int64) : (∃ key, ofPoint algorithm point = .ok key) ↔ IsUncompressed point := by
  simp only [isUncompressed_iff, ofPoint_eq_ok_iff]
  constructor
  · rintro ⟨key, coordinates, same, length, -⟩
    exact ⟨coordinates, same, length⟩
  · rintro ⟨coordinates, same, length⟩
    exact ⟨_, coordinates, same, length, rfl⟩

theorem ofPoint_eq_error (algorithm : Int64) (other : ¬IsUncompressed point) :
    ofPoint algorithm point = .error .notUncompressed := by
  rw [isUncompressed_iff] at other
  unfold ofPoint
  split
  · rename_i coordinates
    rw [if_neg fun length => other ⟨coordinates, rfl, length⟩]
  · rfl

/-- A written key is read from its canonical form as it was. -/
theorem read?_ofPoint {algorithm : Int64} (h : ofPoint algorithm point = .ok key) :
    Request.canonical key = .ok key.write ∧ Value.read? key.write = some key := by
  have ordered := order_ofPoint h
  have item := readItem_write (readable_ofPoint h (maxDepth - 1)) []
  rw [List.append_nil] at item
  refine ⟨Request.canonical_eq_ok_iff.2 (Value.canonical_eq_ok_iff.2 (by simp [ordered])), ?_⟩
  rw [Value.read?]
  exact congrArg (Option.map Prod.fst) item

/-- A point that was read is written under the same type, curve and coordinates. -/
theorem ofPoint_of_toPoint (h : toPoint key = .ok point) (algorithm : Int64) : IsUncompressed point ∧
    ∃ written, ofPoint algorithm point = .ok written ∧
      ∀ label ∈ keyLabels, parameter? written label = parameter? key label := by
  obtain ⟨-, x, y, holds, hx, hy, rfl⟩ := toPoint_eq_ok_iff.1 h
  have uncompressed : IsUncompressed (4 :: (x ++ y)) := ⟨by simp [hx, hy], rfl⟩
  obtain ⟨written, same⟩ := (exists_ofPoint_iff algorithm).2 uncompressed
  have holds' : Holds written x y := by
    have halves := holds_ofPoint same
    rwa [List.drop_one, List.tail_cons, List.take_left' hx, List.drop_left' hx] at halves
  refine ⟨uncompressed, written, same, ?_⟩
  simp only [keyLabels, List.map_cons, List.map_nil, List.forall_mem_cons, List.not_mem_nil, false_implies,
    implies_true, and_true]
  exact ⟨holds'.type.trans holds.type.symm, holds'.curve.trans holds.curve.symm, holds'.x.trans holds.x.symm,
    holds'.y.trans holds.y.symm⟩

theorem exists_fault (other : parameter? key (.number 1) ≠ some (.unsigned 2) ∨
    parameter? key (.number (-1)) ≠ some (.unsigned 1) ∨ ¬HasCoordinate key (.number (-2)) ∨
      ¬HasCoordinate key (.number (-3))) : ∃ fault, toPoint key = .error fault := by
  cases read : toPoint key with
  | error fault => exact ⟨fault, rfl⟩
  | ok point =>
      obtain ⟨-, x, y, holds, hx, hy, -⟩ := toPoint_eq_ok_iff.1 read
      rcases other with type | curve | noX | noY
      · exact absurd holds.type type
      · exact absurd holds.curve curve
      · exact absurd ⟨x, holds.x, hx⟩ noX
      · exact absurd ⟨y, holds.y, hy⟩ noY

/-- Exactly the uncompressed points are written, for any algorithm that is registered, and each is read back from its
map before and after the map went over a wire. A point that is read from some map is uncompressed, and writing it gives
the same type, curve and coordinates again. Neither the order of the entries of a map nor further entries change what is
read; and a map of another type or curve, or without a coordinate of 32 bytes, is refused as no key to agree with. -/
theorem points_and_maps_agree :
    (∀ algorithm ∈ algorithms, ∀ point, IsUncompressed point → ∃ key encoded decoded,
      ofPoint algorithm point = .ok key ∧ toPoint key = .ok point ∧
      Request.canonical key = .ok encoded ∧ Value.read? encoded = some decoded ∧ toPoint decoded = .ok point) ∧
    (∀ algorithm point, ¬IsUncompressed point → ofPoint algorithm point = .error .notUncompressed) ∧
    (∀ key point, toPoint key = .ok point → IsUncompressed point ∧ ∀ algorithm, ∃ written,
      ofPoint algorithm point = .ok written ∧
        ∀ label ∈ keyLabels, parameter? written label = parameter? key label) ∧
    (∀ entries more others, Further entries more → others.Perm (entries ++ more) →
      toPoint (.map others) = toPoint (.map entries)) ∧
    ∀ key, parameter? key (.number 1) ≠ some (.unsigned 2) ∨ parameter? key (.number (-1)) ≠ some (.unsigned 1) ∨
        ¬HasCoordinate key (.number (-2)) ∨ ¬HasCoordinate key (.number (-3)) →
      ∃ fault, toPoint key = .error fault ∧
        ∀ protocol own, PinProtocol.agree protocol own key = .error (.peerKey fault) := by
  refine ⟨fun algorithm known point uncompressed => ?_, fun algorithm point => ofPoint_eq_error algorithm,
    fun key point read => ?_, fun entries more others further => further.toPoint_eq, fun key other => ?_⟩
  · obtain ⟨key, written⟩ := (exists_ofPoint_iff algorithm).2 uncompressed
    have read := toPoint_ofPoint known written
    obtain ⟨encoded, decoded⟩ := read?_ofPoint written
    exact ⟨key, key.write, key, written, read, encoded, decoded, read⟩
  · exact ⟨(ofPoint_of_toPoint read 0).1, fun algorithm => (ofPoint_of_toPoint read algorithm).2⟩
  · obtain ⟨fault, failed⟩ := exists_fault other
    refine ⟨fault, failed, fun protocol own => ?_⟩
    unfold PinProtocol.agree
    rw [failed]
    rfl

/-- The entries of a key for ES256, as it is written. -/
def plainEntries : List (Value × Value) := [
  (.unsigned 1, .unsigned 2), (.unsigned 3, .ofInt64 es256), (.negative 0, .unsigned 1),
  (.negative 1, .bytes (List.replicate 32 0x11)), (.negative 2, .bytes (List.replicate 32 0x22))]

/-- Entries under labels of no meaning, one of them a text. -/
def remarks : List (Value × Value) :=
  [(.text "x", .null), (.negative 69999, .array [])]

theorem further_remarks : Further plainEntries remarks where
  labelled := by
    simp only [remarks, List.forall_mem_cons, List.not_mem_nil, false_implies, implies_true, and_true]
    exact ⟨⟨.text "x", rfl, by decide⟩, ⟨.number (-70000), rfl, by decide⟩⟩
  distinct := by decide
  fresh := by decide

theorem point_of_remarks : Further plainEntries remarks ∧ toPoint (.map (remarks ++ plainEntries.reverse)) =
    .ok (4 :: (List.replicate 32 0x11 ++ List.replicate 32 0x22)) := by
  obtain ⟨written, -, -, unordered, -⟩ := points_and_maps_agree
  obtain ⟨key, -, -, same, read, -⟩ :=
    written es256 (by decide) (4 :: (List.replicate 32 0x11 ++ List.replicate 32 0x22)) ⟨by decide, rfl⟩
  have plain : ofPoint es256 (4 :: (List.replicate 32 0x11 ++ List.replicate 32 0x22)) = .ok (.map plainEntries) := rfl
  cases plain.symm.trans same
  have perm : (remarks ++ plainEntries.reverse).Perm (plainEntries ++ remarks) :=
    List.perm_append_comm.trans (plainEntries.reverse_perm.append_right remarks)
  exact ⟨further_remarks, (unordered _ _ _ further_remarks perm).trans read⟩

end SecurityKey.Crypto.CoseKey
