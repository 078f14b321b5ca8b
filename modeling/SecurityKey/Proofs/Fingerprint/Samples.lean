import SecurityKey.Proofs.Readers
import SecurityKey.Proofs.Signing

/-!
# Samples

A sample is asked for with one signed request, and the answer to it is read by its keys: the template that was begun
stands under 4, the feedback on the sample under 5, and the number of samples still needed under 6.
-/

namespace SecurityKey.Fingerprint

open Cbor (Value writeMap)

open Operation

/-! ## Requests -/

/-- The parameters of a sample: the template if there is one, no name, and the timeout. -/
def sampleParams (timeout : Option Duration) (templateId : Option Bytes) : Value :=
  Request.pack [templateId.map .bytes, none, timeoutValue timeout]

/-- A request that is signed with a token, as `Signer.Vouched` says, with the given parameters. -/
def IsSigned (token : Token) (session : Session) (subCommand : UInt8) (params : Value) (request : Bytes) : Prop :=
  ∃ encoded fields, params.canonical = .ok encoded ∧
    Signer.fingerprints.Vouched token subCommand (some encoded) fields ∧
    request = (Signer.fingerprints.command session.info).byte :: writeMap fields

/-- The request that is signed with a token, for a sub-command with parameters that can be put in order. -/
def signedRequest (token : Token) (session : Session) (subCommand : UInt8) (params : Value) : Bytes :=
  let code := token.authenticate (Signer.fingerprints.domain ++ subCommand :: params.order.1.write)
  (Signer.fingerprints.command session.info).byte ::
    writeMap (Request.fields (Signer.fingerprints.arguments subCommand (some params) token.protocol.version code))

/-- The answer to a signed request. -/
def signedAnswer (token : Token) (session : Session) (subCommand : UInt8) (params : Value) : Result (Option Response) :=
  (Session.exchanged (signedRequest token session subCommand params) session).1

variable {token : Token} {timeout : Option Duration} {session : Session} {params : Value}

theorem isSigned_signedRequest (subCommand : UInt8) (accepted : params.order.2 = none) :
    IsSigned token session subCommand params (signedRequest token session subCommand params) := by
  have written := Value.canonical_eq_ok_iff.2 ⟨accepted, rfl⟩
  exact ⟨_, _, written, Signer.vouched_fields (by simp [written]), rfl⟩

theorem call_signed_on (subCommand : UInt8) (accepted : params.order.2 = none) :
    (call token subCommand (some params) .signed).on session =
      Session.exchanged (signedRequest token session subCommand params) session := by
  have written : (some params).map Value.canonical = (some params.order.1.write).map .ok :=
    congrArg some (Value.canonical_eq_ok_iff.2 ⟨accepted, rfl⟩)
  show (Signer.fingerprints.call token subCommand (some params)).on session = _
  rw [Signer.call_eq, Signer.authenticated_eq written]
  show (Session.send (Signer.fingerprints.command session.info) _).on session = _
  refine Session.on_send_of_encode (Request.encode_pack _ ?_ fun argument mem => Signer.order_arguments written mem)
  simp [Signer.arguments]

theorem sends_call_signed (subCommand : UInt8) (accepted : params.order.2 = none) :
    (call token subCommand (some params) .signed).Sends [signedRequest token session subCommand params] session := by
  constructor <;> rw [call_signed_on subCommand accepted]
  · exact .one _
  · rfl

theorem order_sampleParams (timeout : Option Duration) (templateId : Option Bytes) :
    (sampleParams timeout templateId).order.2 = none := by
  refine (Value.canonical_eq_ok_iff.1 (Request.canonical_pack (by simp) fun argument mem => ?_)).1
  simp only [List.mem_cons, List.not_mem_nil, or_false] at mem
  rcases mem with same | same | same
  · obtain ⟨id, -, rfl⟩ := Option.map_eq_some_iff.1 same.symm
    rfl
  · cases same
  · obtain ⟨d, -, rfl⟩ := Option.map_eq_some_iff.1 same.symm
    rfl

/-- The beginning of an enrollment sends one request, signed, that names no template. -/
theorem sends_beginEnrollment (token : Token) (timeout : Option Duration) (session : Session) :
    (beginEnrollment token timeout).Sends [signedRequest token session 0x01 (sampleParams timeout none)] session :=
  (sends_call_signed 0x01 (order_sampleParams timeout none)).bind fun _ => .bind (still_liftM _) fun _ =>
    .bind (still_liftM _) fun _ => .bind (still_liftM _) fun _ => still_pure _

/-- The next sample of a template is asked for with one request, signed, that names it. -/
theorem sends_captureNext (token : Token) (templateId : Bytes) (timeout : Option Duration) (session : Session) :
    (captureNext token templateId timeout).Sends
      [signedRequest token session 0x02 (sampleParams timeout (some templateId))] session :=
  (sends_call_signed 0x02 (order_sampleParams timeout (some templateId))).bind fun _ => .bind (still_liftM _) fun _ =>
    still_liftM _

/-! ## Answers -/

/-- A response reports on a sample: the feedback, a number of one byte, and the samples still needed. -/
structure Reports (response : Response) (sample : Sample) : Prop where
  feedback : response.get? 0x05 = some (.unsigned sample.feedback.toUInt64)
  remaining : response.get? 0x06 = some (.unsigned sample.remaining)

/-- The reply to a request for a sample. -/
inductive Reply where
  | begun (templateId : Bytes) (sample : Sample)
  | sampled (sample : Sample)

/-- A reply is read from a response: a report on the sample and, when there was no template before, the ID of one. -/
inductive Reply.ReadFrom (response : Response) : (template : Option Bytes) → Reply → Prop where
  | begun {templateId : Bytes} {sample : Sample} : response.get? 0x04 = some (.bytes templateId) →
      Reports response sample → ReadFrom response none (.begun templateId sample)
  | sampled (templateId : Bytes) {sample : Sample} : Reports response sample →
      ReadFrom response (some templateId) (.sampled sample)

/-- What is heard in the answer to a request for a sample: the reply that is read from its data, or nothing when none
is. -/
def Heard (template : Option Bytes) (answer : Result (Option Response)) (heard : Option Reply) : Prop :=
  ∀ reply, heard = some reply ↔ ∃ response, answer = .ok (some response) ∧ reply.ReadFrom response template

/-- A failure to read the answer to a request: that of the exchange, or for the data in the answer. -/
def Unread (answer : Result (Option Response)) (failure : Failure) : Prop :=
  answer = .error failure ∨ ∃ response malformation, answer = .ok response ∧ failure = .badResponse malformation

theorem Heard.unique {template : Option Bytes} {answer : Result (Option Response)} {heard other : Option Reply}
    (h : Heard template answer heard) (h' : Heard template answer other) : heard = other :=
  Option.ext fun reply => (h reply).trans (h' reply).symm

variable {answer : Result (Option Response)} {response : Response} {sample : Sample} {templateId : Bytes}

theorem not_le_toUInt64 (b : UInt8) : ¬256 ≤ b.toUInt64 := by
  have small := b.toNat_lt
  simp only [UInt64.le_iff_toNat_le, UInt8.toNat_toUInt64, UInt64.reduceToNat]
  omega

theorem toUInt64_toUInt8 {n : UInt64} (h : ¬256 ≤ n) : n.toUInt8.toUInt64 = n := by
  have small := UInt64.lt_iff_toNat_lt.1 (UInt64.not_le.1 h)
  rw [← UInt64.toNat_inj, UInt8.toNat_toUInt64, UInt64.toNat_toUInt8]
  exact Nat.mod_eq_of_lt small

theorem sampleOf_eq_ok_iff : sampleOf response = .ok sample ↔ Reports response sample := by
  obtain ⟨feedback, remaining⟩ := sample
  simp only [sampleOf, Result.bind_eq_ok_iff, Response.require_unsigned_eq_ok_iff]
  constructor
  · rintro ⟨number, held, read⟩
    split_ifs at read with wide
    · cases read
    · obtain ⟨_, held', ⟨⟩⟩ := Result.bind_eq_ok_iff.1 read
      exact ⟨by rw [held, toUInt64_toUInt8 wide], Response.require_unsigned_eq_ok_iff.1 held'⟩
  · rintro ⟨held, held'⟩
    refine ⟨_, held, ?_⟩
    rw [if_neg (not_le_toUInt64 feedback)]
    refine Result.bind_eq_ok_iff.2 ⟨remaining, Response.require_unsigned_eq_ok_iff.2 held', ?_⟩
    simp [pure, Except.pure]

theorem expectData_eq_ok_iff {request : String} {given : Option Response} :
    Session.expectData request given = .ok response ↔ given = some response :=
  Result.ofOption_eq_ok_iff

/-- What is read from data fails as the exchange does, or because the data is malformed. -/
theorem unread_of_bind {α : Type} {read : Option Response → Result α} [∀ given, Result.Reading (read given)]
    {failure : Failure} (failed : answer.bind read = .error failure) : Unread answer failure := by
  cases answer with
  | error own =>
      cases failed
      exact .inl rfl
  | ok given =>
      have failed : read given = .error failure := failed
      obtain ⟨malformation, rfl⟩ := Result.Reading.isReading failure failed
      exact .inr ⟨given, malformation, rfl, rfl⟩

/-! ## The beginning of a template -/

/-- The template and the report on its first sample that are read from data. -/
def readBeginning (given : Option Response) : Result (Bytes × Sample) := do
  let response ← Session.expectData "enrollBegin" given
  let templateId ← response.require .bytes 0x04
  return (templateId, ← sampleOf response)

/-- The report on a further sample that is read from data. -/
def readNext (given : Option Response) : Result Sample := do
  sampleOf (← Session.expectData "enrollCaptureNextSample" given)

theorem on_signed_bind {α : Type} {subCommand : UInt8} (accepted : params.order.2 = none)
    {next : Option Response → Operation α} {read : Option Response → Result α}
    (gives : ∀ given, (next given).Gives (read given)) :
    (call token subCommand (some params) .signed >>= next).on session =
      ((signedAnswer token session subCommand params).bind read,
        (Session.exchanged (signedRequest token session subCommand params) session).2) := by
  rw [on_bind_of_gives _ gives, call_signed_on _ accepted]
  rfl

theorem beginEnrollment_on (token : Token) (timeout : Option Duration) (session : Session) :
    (beginEnrollment token timeout).on session =
      ((signedAnswer token session 0x01 (sampleParams timeout none)).bind readBeginning,
        (Session.exchanged (signedRequest token session 0x01 (sampleParams timeout none)) session).2) :=
  on_signed_bind (order_sampleParams timeout none) fun _ => (gives_liftM _).bind fun _ => (gives_liftM _).bind fun _ =>
    (gives_liftM _).bind fun _ => gives_pure _

theorem captureNext_on (token : Token) (templateId : Bytes) (timeout : Option Duration) (session : Session) :
    (captureNext token templateId timeout).on session =
      ((signedAnswer token session 0x02 (sampleParams timeout (some templateId))).bind readNext,
        (Session.exchanged (signedRequest token session 0x02 (sampleParams timeout (some templateId))) session).2) :=
  on_signed_bind (order_sampleParams timeout (some templateId)) fun _ => (gives_liftM _).bind fun _ => gives_liftM _

instance (given : Option Response) : Result.Reading (readBeginning given) := by
  unfold readBeginning; infer_instance

instance (given : Option Response) : Result.Reading (readNext given) := by
  unfold readNext; infer_instance

theorem readBeginning_eq_ok_iff : answer.bind readBeginning = .ok (templateId, sample) ↔ ∃ response,
    answer = .ok (some response) ∧ response.get? 0x04 = some (.bytes templateId) ∧ Reports response sample := by
  show (answer >>= readBeginning) = _ ↔ _
  simp only [Result.bind_eq_ok_iff, readBeginning, expectData_eq_ok_iff, Response.require_bytes_eq_ok_iff,
    sampleOf_eq_ok_iff, pure, Except.pure, Except.ok.injEq, Prod.mk.injEq]
  constructor
  · rintro ⟨_, same, response, rfl, _, held, _, reports, rfl, rfl⟩
    exact ⟨response, same, held, reports⟩
  · rintro ⟨response, same, held, reports⟩
    exact ⟨_, same, response, rfl, _, held, _, reports, rfl, rfl⟩

theorem readNext_eq_ok_iff : answer.bind readNext = .ok sample ↔
    ∃ response, answer = .ok (some response) ∧ Reports response sample := by
  show (answer >>= readNext) = _ ↔ _
  simp only [Result.bind_eq_ok_iff, readNext, expectData_eq_ok_iff, sampleOf_eq_ok_iff]
  constructor
  · rintro ⟨_, same, response, rfl, reports⟩
    exact ⟨response, same, reports⟩
  · rintro ⟨response, same, reports⟩
    exact ⟨_, same, response, rfl, reports⟩

theorem heard_beginning (answer : Result (Option Response)) :
    Heard none answer ((answer.bind readBeginning).toOption.map fun begun => .begun begun.1 begun.2) := by
  intro reply
  simp only [Option.map_eq_some_iff, Result.toOption_eq_some_iff, Prod.exists, readBeginning_eq_ok_iff]
  constructor
  · rintro ⟨templateId, sample, ⟨response, same, held, reports⟩, rfl⟩
    exact ⟨response, same, .begun held reports⟩
  · rintro ⟨response, same, read⟩
    cases read with
    | begun held reports => exact ⟨_, _, ⟨response, same, held, reports⟩, rfl⟩

theorem heard_next (templateId : Bytes) (answer : Result (Option Response)) :
    Heard (some templateId) answer ((answer.bind readNext).toOption.map .sampled) := by
  intro reply
  simp only [Option.map_eq_some_iff, Result.toOption_eq_some_iff, readNext_eq_ok_iff]
  constructor
  · rintro ⟨sample, ⟨response, same, reports⟩, rfl⟩
    exact ⟨response, same, .sampled templateId reports⟩
  · rintro ⟨response, same, read⟩
    cases read with
    | sampled _ reports => exact ⟨_, ⟨response, same, reports⟩, rfl⟩

end SecurityKey.Fingerprint
