import SecurityKey.Pin.Authenticator
import SecurityKey.Proofs.Crypto.CoseKey
import SecurityKey.Proofs.Pin.Protocol
import SecurityKey.Proofs.Request

/-!
# Sealed requests on both ends

An authenticator finds in a message the platform's key, the ciphertexts and the code that the platform put in.
-/

namespace SecurityKey

open Cbor Crypto

/-! ## Arguments -/

namespace PinParameters

variable {parameters : PinParameters}

/-- The arguments of a request, in the order of their keys. -/
def arguments (parameters : PinParameters) : List (Option Value) := [
  parameters.pinUvAuthProtocol.map .ofByte,
  some (.ofByte parameters.subCommand),
  parameters.keyAgreement,
  parameters.pinUvAuthParam.map .bytes,
  parameters.newPinEnc.map .bytes,
  parameters.pinHashEnc.map .bytes,
  none,
  none,
  parameters.permissions.map .ofByte,
  parameters.rpId.map .text]

/-- The parameters together with a platform key. -/
def withKey (parameters : PinParameters) (key : Value) : PinParameters :=
  { parameters with keyAgreement := some key }

/-- The bytes of a request. -/
def message (parameters : PinParameters) : Bytes :=
  Command.clientPin.byte :: writeMap (Request.fields parameters.arguments)

/-- A platform key among the parameters is in order. -/
def Ordered (parameters : PinParameters) : Prop :=
  ∀ key, parameters.keyAgreement = some key → key.order = (key, none)

/-- A request with a platform key, all of whose strings have a size that a head can hold. -/
structure Sound (parameters : PinParameters) (point : Bytes) : Prop where
  key : ∀ key, parameters.keyAgreement = some key → CoseKey.ofPoint CoseKey.keyAgreement point = .ok key
  code : ∀ code, parameters.pinUvAuthParam = some code → code.length < 2 ^ 64
  newPin : ∀ newPinEnc, parameters.newPinEnc = some newPinEnc → newPinEnc.length < 2 ^ 64
  pinHash : ∀ pinHashEnc, parameters.pinHashEnc = some pinHashEnc → pinHashEnc.length < 2 ^ 64
  rpId : ∀ rpId, parameters.rpId = some rpId → (Bytes.ofText rpId).length < 2 ^ 64

variable {point : Bytes}

theorem isArgument_ofPoint {key : Value} (h : CoseKey.ofPoint CoseKey.keyAgreement point = .ok key) :
    Request.IsArgument key :=
  ⟨CoseKey.order_ofPoint h, CoseKey.readable_ofPoint h _⟩

theorem Sound.arguments (h : parameters.Sound point) {argument : Value} (mem : some argument ∈ parameters.arguments) :
    Request.IsArgument argument := by
  simp only [PinParameters.arguments, List.mem_cons, List.not_mem_nil, or_false, reduceCtorEq, false_or] at mem
  have byte {b : Option UInt8} (same : some argument = b.map .ofByte) : Request.IsArgument argument := by
    obtain ⟨b, -, rfl⟩ := Option.map_eq_some_iff.1 same.symm
    exact Request.isArgument_ofByte b
  have string {content : Option Bytes} (size : ∀ bytes, content = some bytes → bytes.length < 2 ^ 64)
      (same : some argument = content.map .bytes) : Request.IsArgument argument := by
    obtain ⟨bytes, given, rfl⟩ := Option.map_eq_some_iff.1 same.symm
    exact Request.isArgument_bytes (size bytes given)
  rcases mem with same | same | same | same | same | same | same | same
  · exact byte same
  · exact byte (b := some parameters.subCommand) same
  · exact isArgument_ofPoint (h.key argument same.symm)
  · exact string h.code same
  · exact string h.newPin same
  · exact string h.pinHash same
  · exact byte same
  · obtain ⟨rpId, given, rfl⟩ := Option.map_eq_some_iff.1 same.symm
    exact Request.isArgument_text (h.rpId rpId given)

theorem length_arguments (parameters : PinParameters) : parameters.arguments.length = 10 := rfl

theorem Ordered.encode (h : parameters.Ordered) :
    Request.encode .clientPin (some parameters.toValue) = .ok parameters.message := by
  refine Request.encode_pack .clientPin (by simp) fun argument mem => ?_
  simp only [List.mem_cons, List.not_mem_nil, or_false, reduceCtorEq, false_or] at mem
  have atom {α : Type} {of : α → Value} (refuses : ∀ a, (of a).order.2 = none) {field : Option α}
      (same : some argument = field.map of) : argument.order.2 = none := by
    obtain ⟨a, -, rfl⟩ := Option.map_eq_some_iff.1 same.symm
    exact refuses a
  rcases mem with same | same | same | same | same | same | same | same
  · exact atom (fun _ => rfl) same
  · obtain rfl := Option.some.inj same
    rfl
  · rw [h argument same.symm]
  · exact atom (fun _ => rfl) same
  · exact atom (fun _ => rfl) same
  · exact atom (fun _ => rfl) same
  · exact atom (fun _ => rfl) same
  · exact atom (fun _ => rfl) same

theorem Sound.read (h : parameters.Sound point) :
    Response.ofBytes (writeMap (Request.fields parameters.arguments)) =
      .ok ⟨Request.numbered 1 parameters.arguments⟩ :=
  Request.ofBytes_writeMap_of_ordered (by rw [length_arguments]; decide) fun _ mem => h.arguments mem

theorem lookup_arguments (parameters : PinParameters) {i : Nat} (inside : i < 10) :
    (Request.numbered 1 parameters.arguments).lookup (1 + .ofNat i) = parameters.arguments[i] :=
  Request.lookup_numbered (by rw [length_arguments]; decide) inside

end PinParameters

/-! ## The authenticator's view -/

namespace Pin.SealedRequest

variable {parameters : PinParameters} {protocol : PinProtocol} {platform authenticator : P256.PrivateKey}
  {key : Value} {z secret : Bytes}

/-- The request that an authenticator finds in the message of the given parameters. -/
def ofParameters (parameters : PinParameters) (protocol : PinProtocol) (key : Value) : SealedRequest :=
  ⟨protocol, key, ⟨Request.numbered 1 parameters.arguments⟩⟩

theorem ofMessage?_message {point : Bytes} (h : parameters.Sound point)
    (version : parameters.pinUvAuthProtocol = some protocol.version) (given : parameters.keyAgreement = some key) :
    ofMessage? parameters.message = some (ofParameters parameters protocol key) := by
  have number : (Request.numbered 1 parameters.arguments).lookup 0x01 = some (.ofByte protocol.version) := by
    refine (parameters.lookup_arguments (i := 0) (by decide)).trans ?_
    simp [PinParameters.arguments, version]
  have platformKey : (Request.numbered 1 parameters.arguments).lookup 0x03 = some key :=
    (parameters.lookup_arguments (i := 2) (by decide)).trans given
  unfold ofMessage? PinParameters.message
  simp only [if_true]
  rw [h.read]
  simp only [Except.toOption, Option.bind_some, ofArguments?, Response.get?, number, platformKey]
  cases protocol <;> rfl

theorem bytes?_ofParameters (parameters : PinParameters) (protocol : PinProtocol) (key : Value) :
    (ofParameters parameters protocol key).bytes? 0x04 = parameters.pinUvAuthParam ∧
      (ofParameters parameters protocol key).newPinEnc? = parameters.newPinEnc ∧
      (ofParameters parameters protocol key).pinHashEnc? = parameters.pinHashEnc := by
  have content (option : Option Bytes) : (option.map Value.bytes).bind Value.bytes? = option := by
    cases option <;> rfl
  refine ⟨?_, ?_, ?_⟩
  · exact (congrArg (·.bind Value.bytes?) (parameters.lookup_arguments (i := 3) (by decide))).trans (content _)
  · exact (congrArg (·.bind Value.bytes?) (parameters.lookup_arguments (i := 4) (by decide))).trans (content _)
  · exact (congrArg (·.bind Value.bytes?) (parameters.lookup_arguments (i := 5) (by decide))).trans (content _)

theorem secret?_ofParameters (written : CoseKey.ofPoint CoseKey.keyAgreement platform.publicKey = .ok key)
    (agreed : authenticator.agree? platform.publicKey = some z) :
    (ofParameters parameters protocol key).secret? authenticator = some (protocol.derive z) := by
  unfold secret?
  simp only [ofParameters, CoseKey.toPoint_ofPoint (by decide) written]
  simp only [Except.toOption, bind, Option.bind, agreed]
  rfl

end Pin.SealedRequest

end SecurityKey
