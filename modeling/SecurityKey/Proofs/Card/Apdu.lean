import Mathlib.Tactic.SplitIfs
import SecurityKey.Card.Apdu
import SecurityKey.Proofs.Bytes

/-!
# Putting a command together

A smartcard reads each APDU by itself and puts the parts of a chain together. What it gets is the command, whatever
form the command was sent in.
-/

namespace SecurityKey.Card

/-- Whether a command is a part of a longer one. -/
def Header.isChained (header : Header) : Bool :=
  header.cla &&& 0x10 != 0

theorem Header.isChained_chained (header : Header) : header.chained.isChained := by
  have kept : (header.cla ||| 0x10) &&& 0x10 = 0x10 := by
    refine UInt8.toBitVec_inj.1 (BitVec.eq_of_getElem_eq fun i inside => ?_)
    rw [UInt8.toBitVec_and, UInt8.toBitVec_or, BitVec.getElem_and, BitVec.getElem_or]
    grind
  simp [isChained, chained, kept]

namespace Apdu

/-- The command with a short or an extended wire form. -/
def read? (wire : Bytes) : Option Apdu :=
  readShort? wire <|> readExtended? wire

theorem encodeChain_cons (header : Header) (body next : Bytes) (bodies : List Bytes) :
    encodeChain header (body :: next :: bodies) =
      encodeShort header.chained body :: encodeChain header (next :: bodies) := rfl

theorem encodeChain_ne_nil {header : Header} {bodies : List Bytes} (h : bodies ≠ []) :
    encodeChain header bodies ≠ [] := by
  match bodies, h with
  | [_], _ => exact List.cons_ne_nil _ _
  | _ :: _ :: _, _ => exact List.cons_ne_nil _ _

theorem ne_nil_of_not_short {data : Bytes} (long : ¬data.length ≤ shortLimit) : data ≠ [] := by
  rintro rfl
  exact long (Nat.zero_le _)

theorem encode_ne_nil (apdu : Apdu) (extendedLength : Bool) : apdu.encode extendedLength ≠ [] := by
  unfold encode
  split_ifs with short extended
  · exact List.cons_ne_nil _ _
  · exact List.cons_ne_nil _ _
  · exact encodeChain_ne_nil (Bytes.chunks_ne_nil (by decide) (ne_nil_of_not_short short))

theorem read?_encodeShort (header : Header) {data : Bytes} (h : data.length ≤ shortLimit) :
    read? (encodeShort header data) = some ⟨header, data⟩ := by
  rw [read?, readShort?_encodeShort header h]
  rfl

theorem readShort?_encodeExtended (header : Header) {data : Bytes} (h : data ≠ []) :
    readShort? (encodeExtended header data) = none := by
  cases data with
  | nil => exact absurd rfl h
  | cons b data => simp [encodeExtended, Header.toBytes, Bytes.ofNat, readShort?]

theorem read?_encodeExtended (header : Header) {data : Bytes} (h : data ≠ []) (fits : data.length ≤ extendedLimit) :
    read? (encodeExtended header data) = some ⟨header, data⟩ := by
  rw [read?, readShort?_encodeExtended header h, readExtended?_encodeExtended header fits]
  rfl

end Apdu

/-- The command that the first APDUs make up, and the APDUs after it. The parts of a chain have the header of its last
part, marked as chained. -/
def assemble? : List Bytes → Option (Apdu × List Bytes)
  | [] => none
  | wire :: wires =>
    match Apdu.read? wire with
    | none => none
    | some part =>
      if part.header.isChained then
        match assemble? wires with
        | none => none
        | some (whole, later) =>
          if part.header = whole.header.chained then some (⟨whole.header, part.data ++ whole.data⟩, later) else none
      else some (part, wires)

variable {header : Header} {later : List Bytes}

theorem assemble?_of_read? {wire : Bytes} {apdu : Apdu} (h : Apdu.read? wire = some apdu)
    (plain : apdu.header.isChained = false) : assemble? (wire :: later) = some (apdu, later) := by
  simp [assemble?, h, plain]

theorem assemble?_encodeChain (plain : header.isChained = false) {bodies : List Bytes} (some_body : bodies ≠ [])
    (short : ∀ body ∈ bodies, body.length ≤ Apdu.shortLimit) :
    assemble? (Apdu.encodeChain header bodies ++ later) = some (⟨header, bodies.flatten⟩, later) := by
  induction bodies with
  | nil => exact absurd rfl some_body
  | cons body bodies ih =>
      have first := short body List.mem_cons_self
      cases bodies with
      | nil =>
          rw [List.flatten_singleton]
          exact assemble?_of_read? (Apdu.read?_encodeShort header first) plain
      | cons next bodies =>
          have rest := ih (by simp) fun body mem => short body (List.mem_cons_of_mem _ mem)
          rw [Apdu.encodeChain_cons, List.cons_append, assemble?, Apdu.read?_encodeShort _ first]
          simp [Header.isChained_chained, rest]

/-- A command is put together from its wire forms. -/
theorem assemble?_encode {apdu : Apdu} (plain : apdu.header.isChained = false) (extendedLength : Bool) :
    assemble? (apdu.encode extendedLength ++ later) = some (apdu, later) := by
  obtain ⟨header, data⟩ := apdu
  unfold Apdu.encode
  split_ifs with short extended
  · exact assemble?_of_read? (Apdu.read?_encodeShort header short) plain
  · exact assemble?_of_read? (Apdu.read?_encodeExtended header (Apdu.ne_nil_of_not_short short) extended.2) plain
  · have cut := Bytes.chunks_ne_nil (show 0 < Apdu.shortLimit by decide) (Apdu.ne_nil_of_not_short short)
    rw [assemble?_encodeChain plain cut fun body mem => Bytes.length_le_of_mem_parts mem,
      Bytes.flatten_chunks (by decide)]

end SecurityKey.Card
