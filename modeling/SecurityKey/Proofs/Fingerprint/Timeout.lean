import SecurityKey.Proofs.Session.Listing

/-!
# Timeouts of samples

The timeout of a sample is one of the parameters that a token vouches for, as a number of milliseconds. It is sent with
64 bits: a time span with more milliseconds than that loses what does not fit, and may come out shorter than one that
does fit.
-/

namespace SecurityKey

/-! ## Milliseconds -/

namespace Duration

variable {d shorter : Duration}

/-- The length of a time span in nanoseconds. -/
def toNanoseconds (d : Duration) : Nat :=
  d.seconds.toNat * 1000000000 + d.nanoseconds.toNat

/-- The number of whole milliseconds of a time span. -/
def wholeMilliseconds (d : Duration) : Nat :=
  d.toNanoseconds / 1000000

/-- The number of whole milliseconds of a time span, or the largest number of 64 bits when they do not hold it. -/
def cappedMilliseconds (d : Duration) : UInt64 :=
  .ofNat (min d.wholeMilliseconds (2 ^ 64 - 1))

theorem toNat_milliseconds (d : Duration) : d.milliseconds.toNat = d.wholeMilliseconds % 2 ^ 64 := by
  have rest : (d.nanoseconds / 1000000).toUInt64.toNat = d.nanoseconds.toNat / 1000000 := by simp
  unfold milliseconds wholeMilliseconds toNanoseconds
  rw [UInt64.toNat_add, UInt64.toNat_mul, rest]
  show (d.seconds.toNat * 1000 % 2 ^ 64 + _) % 2 ^ 64 = _
  omega

theorem toNat_cappedMilliseconds (d : Duration) :
    d.cappedMilliseconds.toNat = min d.wholeMilliseconds (2 ^ 64 - 1) := by
  rw [cappedMilliseconds, UInt64.toNat_ofNat']
  omega

theorem milliseconds_eq_capped_iff : d.milliseconds = d.cappedMilliseconds ↔
    d.wholeMilliseconds < 2 ^ 64 ∨ d.wholeMilliseconds % 2 ^ 64 = 2 ^ 64 - 1 := by
  rw [← UInt64.toNat_inj, toNat_milliseconds, toNat_cappedMilliseconds]
  omega

/-- A time span whose milliseconds fit into 64 bits has at least those of any shorter one. -/
theorem milliseconds_le (fits : d.wholeMilliseconds < 2 ^ 64) (h : shorter.toNanoseconds ≤ d.toNanoseconds) :
    shorter.milliseconds ≤ d.milliseconds := by
  have le : shorter.wholeMilliseconds ≤ d.wholeMilliseconds := Nat.div_le_div_right h
  rw [UInt64.le_iff_toNat_le, toNat_milliseconds, toNat_milliseconds]
  omega

end Duration

namespace Fingerprint

open Cbor (Value Readable maxDepth)

open Operation

/-! ## Reading a timeout -/

/-- The timeout in the parameters that an authenticator reads from a request. -/
def timeoutIn? (request : Bytes) : Option UInt64 := do
  let arguments ← (Response.ofBytes request.tail).toOption
  let params ← (arguments.nested 0x03).toOption.join
  (params.field .unsigned 0x03).toOption.join

variable {Reply : Type} {templateId : Option Bytes}

theorem isArgument_sampleParams (timeout : Option Duration) (size : ∀ id, templateId = some id → id.length < 2 ^ 64) :
    Request.IsArgument (sampleParams timeout templateId) := by
  have shapes (argument : Value) (mem : some argument ∈ [templateId.map .bytes, none, timeoutValue timeout]) :
      (∃ id, templateId = some id ∧ argument = .bytes id) ∨ ∃ n, argument = .unsigned n := by
    simp only [List.mem_cons, List.not_mem_nil, or_false, reduceCtorEq, false_or] at mem
    rcases mem with same | same
    · obtain ⟨id, given, rfl⟩ := Option.map_eq_some_iff.1 same.symm
      exact .inl ⟨id, given, rfl⟩
    · obtain ⟨d, -, rfl⟩ := Option.map_eq_some_iff.1 same.symm
      exact .inr ⟨d.milliseconds, rfl⟩
  refine Request.isArgument_pack (by simp) (fun argument mem => ?_) fun argument mem => ?_
  · obtain ⟨id, -, rfl⟩ | ⟨n, rfl⟩ := shapes argument mem <;> rfl
  · obtain ⟨id, given, rfl⟩ | ⟨n, rfl⟩ := shapes argument mem
    · exact .bytes _ (size id given)
    · exact .unsigned _ n

theorem isArgument_arguments {params : Value} (h : Request.IsArgument params) (token : Token) (subCommand : UInt8)
    (message : Bytes) : ∀ argument, some argument ∈ Signer.fingerprints.arguments subCommand (some params)
      token.protocol.version (token.authenticate message) → Request.IsArgument argument := by
  intro argument mem
  simp only [Signer.arguments, List.cons_append, List.nil_append, List.mem_cons, List.not_mem_nil, or_false,
    Option.some.injEq, reduceCtorEq] at mem
  rcases mem with rfl | rfl | rfl | rfl | rfl
  · exact Request.isArgument_ofByte modality
  · exact Request.isArgument_ofByte subCommand
  · exact h
  · exact Request.isArgument_ofByte token.protocol.version
  · exact Request.isArgument_bytes (Nat.lt_of_le_of_lt (PinProtocol.length_authenticate_le ..) (by decide))

/-- An authenticator finds the timeout of a sample in the request that is signed for it. -/
theorem timeoutIn?_signedRequest (token : Token) (session : Session) (subCommand : UInt8) (timeout : Option Duration)
    (size : ∀ id, templateId = some id → id.length < 2 ^ 64) :
    timeoutIn? (signedRequest token session subCommand (sampleParams timeout templateId)) =
      timeout.map Duration.milliseconds := by
  let message := Signer.fingerprints.domain ++ subCommand :: (sampleParams timeout templateId).order.1.write
  let params : Response := ⟨Request.numbered 1 [templateId.map .bytes, none, timeoutValue timeout]⟩
  let arguments : Response := ⟨Request.numbered 1 (Signer.fingerprints.arguments subCommand
    (some (sampleParams timeout templateId)) token.protocol.version (token.authenticate message))⟩
  have read : Response.ofBytes (signedRequest token session subCommand (sampleParams timeout templateId)).tail =
      .ok arguments :=
    Request.ofBytes_writeMap_of_ordered (by simp [Signer.arguments])
      (isArgument_arguments (isArgument_sampleParams timeout size) token subCommand message)
  have entries : Response.ofEntries (Request.packFrom 1 [templateId.map .bytes, none, timeoutValue timeout]) =
      .ok params := by
    rw [Request.packFrom_eq, Request.ofEntries_entriesOf]
  have nested : arguments.nested 0x03 = .ok (some params) :=
    congrArg (fun read : Result Response => read.map some) entries
  have field : params.field .unsigned 0x03 = .ok (timeout.map Duration.milliseconds) := by
    cases templateId <;> cases timeout <;> rfl
  unfold timeoutIn?
  simp [read, nested, field, Except.toOption]

/-! ## Samples within a timeout -/

/-- A call that takes a sample: the one that begins a template, the one for the next sample of a template, and that of
an enrollment that is not complete. -/
inductive Sampling : Type → Type where
  | first : Sampling (Bytes × Sample)
  | next (templateId : Bytes) : Sampling Sample
  | capture (state : Enrollment) (unfinished : ∀ id, state ≠ .complete id) :
      Sampling (Enrollment × Result (Option Bytes))

namespace Sampling

/-- Takes the sample. -/
def perform (token : Token) (timeout : Option Duration) : Sampling Reply → Operation Reply
  | first => beginEnrollment token timeout
  | next templateId => captureNext token templateId timeout
  | capture state _ => Fingerprint.capture token timeout state

/-- The template that the sample is for, when there is one already. -/
def templateId? : Sampling Reply → Option Bytes
  | first => none
  | next templateId => some templateId
  | capture state _ => state.templateId?

/-- The sub-command that is signed. -/
def subCommand (sampling : Sampling Reply) : UInt8 :=
  if sampling.templateId?.isSome then 0x02 else 0x01

/-- With the timeout `d` a call sends one request. It is signed, and the parameters that the token vouches for hold `n`
as the number of milliseconds, which is what an authenticator reads from it. -/
def SendsTimeout (sampling : Sampling Reply) (token : Token) (session : Session) (d : Duration) (n : UInt64) : Prop :=
  ∃ request, (sampling.perform token (some d)).Sends [request] session ∧
    IsSigned token session sampling.subCommand
      (Request.pack [sampling.templateId?.map .bytes, none, some (.unsigned n)]) request ∧
    ((∀ id, sampling.templateId? = some id → id.length < 2 ^ 64) → timeoutIn? request = some n)

theorem sends_perform (sampling : Sampling Reply) (token : Token) (timeout : Option Duration) (session : Session) :
    (sampling.perform token timeout).Sends
      [signedRequest token session sampling.subCommand (sampleParams timeout sampling.templateId?)] session := by
  cases sampling with
  | first => exact sends_beginEnrollment token timeout session
  | next templateId => exact sends_captureNext token templateId timeout session
  | capture state unfinished => exact sends_capture unfinished

theorem sendsTimeout_milliseconds (sampling : Sampling Reply) (token : Token) (session : Session) (d : Duration) :
    sampling.SendsTimeout token session d d.milliseconds :=
  ⟨_, sampling.sends_perform token (some d) session, isSigned_signedRequest _ (order_sampleParams (some d) _),
    timeoutIn?_signedRequest token session _ (some d)⟩

/-- Of a timeout the number of whole milliseconds is sent, to 64 bits. That is the number itself, or the largest one of
64 bits when it does not fit, exactly for timeouts that fit or whose low 64 bits are all set; and no timeout is sent with
more milliseconds than a longer one that fits. -/
theorem timeouts_are_sent_to_64_bits (sampling : Sampling Reply) (token : Token) (session : Session) (d : Duration) :
    ∃ n, sampling.SendsTimeout token session d n ∧ n.toNat = d.wholeMilliseconds % 2 ^ 64 ∧
      (n = d.cappedMilliseconds ↔ d.wholeMilliseconds < 2 ^ 64 ∨ d.wholeMilliseconds % 2 ^ 64 = 2 ^ 64 - 1) ∧
      (d.wholeMilliseconds < 2 ^ 64 → ∀ shorter : Duration, shorter.toNanoseconds ≤ d.toNanoseconds →
        ∃ m, sampling.SendsTimeout token session shorter m ∧ m ≤ n) := by
  refine ⟨d.milliseconds, sampling.sendsTimeout_milliseconds token session d, d.toNat_milliseconds,
    Duration.milliseconds_eq_capped_iff, fun fits shorter le => ?_⟩
  exact ⟨shorter.milliseconds, sampling.sendsTimeout_milliseconds token session shorter,
    Duration.milliseconds_le fits le⟩

/-- A capture after a sample that was rejected. -/
def retry : Sampling (Enrollment × Result (Option Bytes)) :=
  capture (.rejected (some [0x07]) none 0x05) (by simp)

theorem timeout_of_retry :
    (⟨9, 999999999⟩ : Duration).toNanoseconds ≤ (⟨10, 0⟩ : Duration).toNanoseconds ∧
    (⟨10, 0⟩ : Duration).wholeMilliseconds < 2 ^ 64 ∧
    (∃ request, (retry.perform ⟨.two, []⟩ (some ⟨10, 0⟩)).Sends [request] (answeringSession []) ∧
      timeoutIn? request = some 10000) ∧
    ∃ m, retry.SendsTimeout ⟨.two, []⟩ (answeringSession []) ⟨9, 999999999⟩ m ∧ m ≤ 10000 := by
  have le : (⟨9, 999999999⟩ : Duration).toNanoseconds ≤ (⟨10, 0⟩ : Duration).toNanoseconds := by decide
  have fits : (⟨10, 0⟩ : Duration).wholeMilliseconds < 2 ^ 64 := by decide
  have size : ∀ id, retry.templateId? = some id → id.length < 2 ^ 64 := by
    rintro _ ⟨⟩
    decide
  obtain ⟨n, ⟨request, sends, -, reads⟩, -, kept, least⟩ :=
    timeouts_are_sent_to_64_bits retry ⟨.two, []⟩ (answeringSession []) ⟨10, 0⟩
  have whole : n = 10000 := (kept.2 (.inl fits)).trans (by decide)
  subst whole
  exact ⟨le, fits, ⟨request, sends, reads size⟩, least fits _ le⟩

/-- A time span whose milliseconds need more than 64 bits. -/
def lasting : Duration := ⟨18446744073709552, 0⟩

/-- Of two timeouts the longer one is sent as the shorter one, with 384 milliseconds where 64 bits are not enough. -/
theorem lasting_timeout_is_sent_short :
    lasting.cappedMilliseconds = 0xFFFFFFFFFFFFFFFF ∧ (⟨1, 0⟩ : Duration).toNanoseconds < lasting.toNanoseconds ∧
    (∃ request, ((beginEnrollment ⟨.two, []⟩ (some lasting)).on (answeringSession [])).2.link.requests =
      [.ofCommand .cbor request] ∧ timeoutIn? request = some 384) ∧
    ∃ request, ((beginEnrollment ⟨.two, []⟩ (some ⟨1, 0⟩)).on (answeringSession [])).2.link.requests =
      [.ofCommand .cbor request] ∧ timeoutIn? request = some 1000 := by
  have sent (d : Duration) : ∃ request, ((beginEnrollment ⟨.two, []⟩ (some d)).on (answeringSession [])).2.link.requests =
      [.ofCommand .cbor request] ∧ timeoutIn? request = some d.milliseconds := by
    obtain ⟨request, sends, -, reads⟩ := first.sendsTimeout_milliseconds ⟨.two, []⟩ (answeringSession []) d
    exact ⟨request, sends.requests_eq (Link.isCalm_bringing _), reads (by rintro _ ⟨⟩)⟩
  exact ⟨by decide, by decide, sent lasting, sent ⟨1, 0⟩⟩

end Sampling

end Fingerprint

end SecurityKey
