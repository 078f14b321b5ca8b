import SecurityKey.Bytes

/-!
# APDUs

Commands to a smartcard as in ISO 7816-4. A body of up to 255 bytes is one short APDU; a longer one is an extended
APDU, or a chain of short ones where extended length is not allowed.
-/

namespace SecurityKey.Card

/-- The class, instruction and parameters of a command. -/
structure Header where
  cla : UInt8
  ins : UInt8
  p1 : UInt8
  p2 : UInt8
  deriving DecidableEq

/-- The bytes of a header. -/
def Header.toBytes (header : Header) : Bytes :=
  [header.cla, header.ins, header.p1, header.p2]

/-- A header that marks its command as a part of a longer one. -/
def Header.chained (header : Header) : Header :=
  { header with cla := header.cla ||| 0x10 }

/-- The header of a command that carries a CTAP2 request. -/
def Header.ctap2 : Header :=
  ⟨0x80, 0x10, 0x00, 0x00⟩

/-- A command. -/
structure Apdu where
  header : Header
  data : Bytes
  deriving DecidableEq

namespace Apdu

/-- The longest body of a short APDU. -/
def shortLimit : Nat := 255

/-- The longest body of an extended APDU. -/
def extendedLimit : Nat := 65535

/-- The command that selects the application with an identifier. -/
def select (aid : Bytes) : Apdu :=
  ⟨⟨0x00, 0xA4, 0x04, 0x00⟩, aid⟩

/-- The wire form of the command that asks for `length` more bytes of a response; 0 stands for 256. -/
def getResponse (length : UInt8) : Bytes :=
  [0x00, 0xC0, 0x00, 0x00, length]

/-- The wire form of a short command, which asks for up to 256 bytes. -/
def encodeShort (header : Header) (data : Bytes) : Bytes :=
  let body := if data.isEmpty then [] else Bytes.ofNat 1 data.length ++ data
  header.toBytes ++ (body ++ [0x00])

/-- The wire form of an extended command, which asks for up to 65536 bytes. -/
def encodeExtended (header : Header) (data : Bytes) : Bytes :=
  let body := if data.isEmpty then [] else Bytes.ofNat 2 data.length ++ data
  header.toBytes ++ (0x00 :: (body ++ [0x00, 0x00]))

/-- The wire forms of a chain with the given bodies. -/
def encodeChain (header : Header) : (bodies : List Bytes) → List Bytes
  | [] => []
  | [body] => [encodeShort header body]
  | body :: bodies => encodeShort header.chained body :: encodeChain header bodies

/-- The wire forms of a command, one after another. -/
def encode (apdu : Apdu) (extendedLength : Bool) : List Bytes :=
  if apdu.data.length ≤ shortLimit then [encodeShort apdu.header apdu.data]
  else if extendedLength ∧ apdu.data.length ≤ extendedLimit then [encodeExtended apdu.header apdu.data]
  else encodeChain apdu.header (apdu.data.chunks shortLimit)

/-- The command with the short wire form `wire`. -/
def readShort? (wire : Bytes) : Option Apdu :=
  match wire with
  | [cla, ins, p1, p2, 0x00] => some ⟨⟨cla, ins, p1, p2⟩, []⟩
  | cla :: ins :: p1 :: p2 :: length :: rest => do
    let (data, expected) ← Bytes.splitAt? length.toNat rest
    if length ≠ 0 ∧ expected = [0x00] then return ⟨⟨cla, ins, p1, p2⟩, data⟩ else none
  | _ => none

/-- The command with the extended wire form `wire`. -/
def readExtended? (wire : Bytes) : Option Apdu :=
  match wire with
  | [cla, ins, p1, p2, 0x00, 0x00, 0x00] => some ⟨⟨cla, ins, p1, p2⟩, []⟩
  | cla :: ins :: p1 :: p2 :: 0x00 :: high :: low :: rest => do
    let length := Bytes.toNat [high, low]
    let (data, expected) ← Bytes.splitAt? length rest
    if length ≠ 0 ∧ expected = [0x00, 0x00] then return ⟨⟨cla, ins, p1, p2⟩, data⟩ else none
  | _ => none

theorem readShort?_encodeShort (header : Header) {data : Bytes} (h : data.length ≤ shortLimit) :
    readShort? (encodeShort header data) = some ⟨header, data⟩ := by
  cases data with
  | nil => rfl
  | cons b rest =>
    have small : (rest.length + 1) % 256 = rest.length + 1 := by
      simp [shortLimit] at h
      omega
    have nonzero : ¬UInt8.ofNat rest.length + 1 = 0 := by
      intro zero
      have := congrArg UInt8.toNat zero
      simp [small] at this
    have split : Bytes.splitAt? (rest.length + 1) (b :: (rest ++ [0x00])) = some (b :: rest, [0x00]) :=
      Bytes.splitAt?_eq_some_iff.2 ⟨by simp, by simp⟩
    simp [encodeShort, Header.toBytes, Bytes.ofNat, readShort?, small, nonzero, split]

theorem readExtended?_encodeExtended (header : Header) {data : Bytes} (h : data.length ≤ extendedLimit) :
    readExtended? (encodeExtended header data) = some ⟨header, data⟩ := by
  cases data with
  | nil => rfl
  | cons b rest =>
    have length : Bytes.toNat (Bytes.ofNat 2 (rest.length + 1)) = rest.length + 1 := by
      simp [extendedLimit, Bytes.toNat, Bytes.ofNat] at h ⊢
      omega
    have split : Bytes.splitAt? (rest.length + 1) (b :: (rest ++ [0x00, 0x00])) = some (b :: rest, [0x00, 0x00]) :=
      Bytes.splitAt?_eq_some_iff.2 ⟨by simp, by simp⟩
    simp [Bytes.ofNat] at length
    simp [encodeExtended, Header.toBytes, Bytes.ofNat, readExtended?, length, split]

end Apdu

/-- The status word for success. -/
def success : UInt16 := 0x9000

/-- Whether a status word says that more of the response can be fetched. -/
def hasMore (word : UInt16) : Bool :=
  word >>> 8 == 0x61

/-- The body and the status word of a response. -/
def splitStatus? (response : Bytes) : Option (Bytes × UInt16) :=
  if response.length < 2 then none
  else
    let body := response.length - 2
    some (response.take body, .ofNat (Bytes.toNat (response.drop body)))

end SecurityKey.Card
