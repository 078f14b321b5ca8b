import SecurityKey.Credential.Store
import SecurityKey.Fingerprint.Client
import SecurityKey.Proofs.Session.Operation
import SecurityKey.Settings

/-!
# Signed requests

A token vouches for a sub-command by a code over the sub-command's byte and its parameters. The parameters are written
twice, for the code and inside of the argument map, and both times come out as the same bytes.
-/

namespace SecurityKey

open Cbor (Value writeMap)

open Operation

/-! ## Messages -/

namespace Request

theorem authenticated_of_refused (domain : Bytes) (subCommand : UInt8) {params refused : Value}
    (h : params.canonical = .error refused) :
    authenticated domain subCommand (some params) = .error (.encoding (.mapKey refused)) := by
  simp [authenticated, canonical, h, Except.mapError, bind, Except.bind]

end Request

/-! ## Those who sign -/

/-- The commands whose sub-commands a token vouches for. -/
inductive Signer where
  | fingerprints
  | credentials
  | settings

/-- The keys under which a signed request holds what the token vouches for, and the code. -/
structure SignedKeys where
  subCommand : UInt64
  params : UInt64
  protocol : UInt64
  code : UInt64

namespace Signer

/-- Sends a signed sub-command with its parameters. -/
def call : Signer → Token → UInt8 → Option Value → Operation (Option Response)
  | fingerprints, token, subCommand, params => Fingerprint.call token subCommand params .signed
  | credentials, token, subCommand, params => CredentialStore.callSigned token subCommand params
  | settings, token, subCommand, params => Settings.call (some token) subCommand params

/-- What a signed message starts with. -/
def domain : Signer → Bytes
  | fingerprints => [0x01]
  | credentials => []
  | settings => List.replicate 32 0xFF ++ [0x0D]

/-- Where a request holds its fields. -/
def keys : Signer → SignedKeys
  | fingerprints => ⟨2, 3, 4, 5⟩
  | credentials => ⟨1, 2, 3, 4⟩
  | settings => ⟨1, 2, 3, 4⟩

/-- The command for an authenticator that reports `info`. -/
def command (signer : Signer) (info : Info) : Command :=
  let preview (option : String) := !info.options.contains option && info.supportsVersion Info.fido21Pre
  match signer with
  | fingerprints => if preview "bioEnroll" then .bioEnrollmentPreview else .bioEnrollment
  | credentials => if preview "credMgmt" then .credentialManagementPreview else .credentialManagement
  | settings => .config

/-- The arguments of a signed request. -/
def arguments (signer : Signer) (subCommand : UInt8) (params : Option Value) (version : UInt8) (code : Bytes) :
    List (Option Value) :=
  let signed := [some (.ofByte subCommand), params, some (.ofByte version), some (.bytes code)]
  match signer with
  | fingerprints => some (.ofByte Fingerprint.modality) :: (signed ++ [none])
  | credentials => signed
  | settings => signed

/-- A map of written fields whose code vouches for exactly the sub-command and the parameters `sent` that it holds. -/
structure Vouched (signer : Signer) (token : Token) (command : UInt8) (sent : Option Bytes)
    (fields : List (UInt64 × Bytes)) : Prop where
  ascending : fields.Pairwise fun a b => a.1 < b.1
  written : ∀ field ∈ fields, ∃ item : Value, field.2 = item.write
  subCommand : fields.lookup signer.keys.subCommand = some (Value.ofByte command).write
  params : fields.lookup signer.keys.params = sent
  protocol : fields.lookup signer.keys.protocol = some (Value.ofByte token.protocol.version).write
  code : fields.lookup signer.keys.code =
    some (Value.bytes (token.authenticate (signer.domain ++ command :: sent.getD []))).write

/-- Sends an argument map. -/
def send (signer : Signer) (arguments : Value) : Operation (Option Response) :=
  match signer with
  | fingerprints => do
    let command ← Session.flavor "bioEnroll" .bioEnrollment .bioEnrollmentPreview
    Session.send command (some arguments)
  | credentials => unattended do
    let command ← Session.flavor "credMgmt" .credentialManagement .credentialManagementPreview
    Session.send command (some arguments)
  | settings => unattended (Session.send .config (some arguments))

theorem call_eq (signer : Signer) (token : Token) (subCommand : UInt8) (params : Option Value) :
    signer.call token subCommand params = (do
      let message ← Request.authenticated signer.domain subCommand params
      signer.send (Request.pack
        (signer.arguments subCommand params token.protocol.version (token.authenticate message)))) := by
  cases signer <;> rfl

theorem sends_send (signer : Signer) {arguments : Value} {request : Bytes} {session : Session}
    (h : Request.encode (signer.command session.info) (some arguments) = .ok request) :
    (signer.send arguments).Sends [request] session := by
  cases signer with
  | fingerprints => exact .after (on_flavor ..) (Session.sends_send h)
  | credentials =>
      have sent : (Session.send (credentials.command session.info) (some arguments)).Sends [request] (quiet session) :=
        Session.sends_send h
      show (unattended (do Session.send (← Session.flavor _ _ _) (some arguments))).Sends [request] session
      exact .unattended (.after (on_flavor ..) sent)
  | settings => exact .unattended (Session.sends_send h)

variable {signer : Signer} {token : Token} {subCommand : UInt8} {params : Option Value} {session : Session}

theorem order_arguments {encoded : Option Bytes} {version : UInt8} {code : Bytes}
    (h : params.map Value.canonical = encoded.map .ok) {argument : Value}
    (mem : some argument ∈ signer.arguments subCommand params version code) : argument.order.2 = none := by
  have given : params = some argument → argument.order.2 = none := by
    rintro rfl
    cases encoded with
    | none => simp at h
    | some encoded => exact (Value.canonical_eq_ok_iff.1 (by simpa using h)).1
  have signed (mem : some argument ∈ [some (.ofByte subCommand), params, some (.ofByte version), some (.bytes code)]) :
      argument.order.2 = none := by
    simp only [List.mem_cons, Option.some.injEq, List.not_mem_nil, or_false] at mem
    rcases mem with rfl | same | rfl | rfl
    · rfl
    · exact given same.symm
    · rfl
    · rfl
  cases signer with
  | fingerprints =>
      rcases List.mem_cons.1 mem with same | mem
      · cases same
        rfl
      · exact signed (by simpa using mem)
  | credentials => exact signed mem
  | settings => exact signed mem

theorem mem_fields {field : UInt64 × Bytes} {arguments : List (Option Value)} (mem : field ∈ Request.fields arguments) :
    ∃ item : Value, field.2 = item.write := by
  obtain ⟨argument, -, same⟩ := List.mem_map.1 (Request.mem_of_mem_numbered mem)
  obtain ⟨argument, -, same⟩ := Option.map_eq_some_iff.1 same
  exact ⟨argument.order.1, same.symm⟩

theorem vouched_fields {encoded : Option Bytes} (h : params.map Value.canonical = encoded.map .ok) :
    signer.Vouched token subCommand encoded (Request.fields (signer.arguments subCommand params token.protocol.version
      (token.authenticate (signer.domain ++ subCommand :: encoded.getD [])))) := by
  have same : params.map (fun params => params.order.1.write) = encoded := by
    cases params <;> cases encoded <;> simp at h ⊢
    exact (Value.canonical_eq_ok_iff.1 h).2
  subst same
  refine ⟨Request.pairwise_fields ?_, fun field mem => mem_fields mem, ?_, ?_, ?_, ?_⟩
  · cases signer <;> simp [arguments]
  all_goals cases signer <;> cases params <;> rfl

theorem call_of_refused {argument refused : Value} (h : argument.canonical = .error refused) :
    (signer.call token subCommand (some argument)).on session = (.error (.encoding (.mapKey refused)), session) := by
  rw [call_eq, Request.authenticated_of_refused _ _ h, on_bind, on_liftM]

theorem authenticated_eq {encoded : Option Bytes} (h : params.map Value.canonical = encoded.map .ok) :
    Request.authenticated signer.domain subCommand params = .ok (signer.domain ++ subCommand :: encoded.getD []) := by
  cases params with
  | none =>
      cases encoded with
      | none => rfl
      | some encoded => simp at h
  | some argument =>
      cases encoded with
      | none => simp at h
      | some encoded => exact Request.authenticated_of_canonical _ _ (by simpa using h)

theorem sends_call {encoded : Option Bytes} (h : params.map Value.canonical = encoded.map .ok) :
    (signer.call token subCommand params).Sends
      [(signer.command session.info).byte :: writeMap (Request.fields (signer.arguments subCommand params
        token.protocol.version (token.authenticate (signer.domain ++ subCommand :: encoded.getD []))))] session := by
  rw [call_eq, authenticated_eq h]
  refine .after rfl (signer.sends_send (Request.encode_pack _ ?_ fun argument mem => order_arguments h mem))
  cases signer <;> simp [arguments]

/-- The bytes that are signed are the bytes that are sent: a signed call either refuses its parameters and sends
nothing, or sends one request whose map holds, as parameters, what the code was computed over. -/
theorem signed_bytes_are_sent (signer : Signer) (token : Token) (subCommand : UInt8) (params : Option Value)
    (session : Session) :
    (∃ argument refused, params = some argument ∧ argument.canonical = .error refused ∧
      (signer.call token subCommand params).on session = (.error (.encoding (.mapKey refused)), session)) ∨
    ∃ (encoded : Option Bytes) (fields : List (UInt64 × Bytes)),
      params.map Value.canonical = encoded.map .ok ∧ signer.Vouched token subCommand encoded fields ∧
      (signer.call token subCommand params).Sends [(signer.command session.info).byte :: writeMap fields] session := by
  cases params with
  | none =>
      have accepted : (none : Option Value).map Value.canonical = (none : Option Bytes).map .ok := rfl
      exact .inr ⟨none, _, accepted, vouched_fields accepted, sends_call accepted⟩
  | some argument =>
      cases h : argument.canonical with
      | error refused => exact .inl ⟨argument, refused, rfl, h, call_of_refused h⟩
      | ok encoded =>
          have accepted : (some argument).map Value.canonical = (some encoded).map .ok := by simp [h]
          exact .inr ⟨some encoded, _, accepted, vouched_fields accepted, sends_call accepted⟩

end Signer

end SecurityKey
