import SecurityKey.Proofs.Fingerprint.Samples

/-!
# Enrollments over whole runs

Between two calls an enrollment stands where the replies heard since the last cancellation put it, whatever else came
in or failed to come in.
-/

namespace SecurityKey.Fingerprint

open Cbor (Value writeMap)

open Operation

/-! ## Replies and runs -/

namespace Reply

/-- The template that a reply begins. -/
def templateId? : Reply → Option Bytes
  | begun templateId _ => some templateId
  | sampled _ => none

/-- The report on the sample. -/
def sample : Reply → Sample
  | begun _ sample => sample
  | sampled sample => sample

/-- The samples still needed, when the sample was a good one. -/
def good? (reply : Reply) : Option UInt64 :=
  if reply.sample.feedback = 0 then some reply.sample.remaining else none

end Reply

/-- A call of one who enrolls a finger, on any session: the answer of the authenticator, and the caller's hold on the
call, are those of the session. -/
inductive Call where
  | capture (session : Session)
  | cancel (session : Session)

/-- Where an enrollment stands, and the replies heard since it began. -/
structure Progress where
  state : Enrollment
  replies : List Reply

/-- The sub-command of a capture: it begins a template or takes the next sample of the one that was begun. -/
def captureCommand (state : Enrollment) : UInt8 :=
  if state.templateId?.isSome then 0x02 else 0x01

/-- The parameters of a capture. -/
def captureParams (timeout : Option Duration) (state : Enrollment) : Value :=
  sampleParams timeout state.templateId?

variable (token : Token) (timeout : Option Duration)

/-- The request of a capture. -/
def captureRequest (state : Enrollment) (session : Session) : Bytes :=
  signedRequest token session (captureCommand state) (captureParams timeout state)

/-- The answer to the request of a capture. -/
def captureAnswer (state : Enrollment) (session : Session) : Result (Option Response) :=
  signedAnswer token session (captureCommand state) (captureParams timeout state)

/-- The state that a call leaves. -/
def stateAfter {α : Type} (state : Enrollment) : Result (Enrollment × α) → Enrollment
  | .ok (next, _) => next
  | .error _ => state

/-- An enrollment goes on with a call. Its state is the one that the call leaves, and what is heard in the answer to a
capture comes behind the replies so far. A complete enrollment hears nothing more. -/
inductive Progress.Step (progress : Progress) : Call → Progress → Prop where
  | finished (session : Session) {templateId : Bytes} : progress.state = .complete templateId →
      Step progress (.capture session)
        ⟨stateAfter progress.state ((capture token timeout progress.state).on session).1, progress.replies⟩
  | captured (session : Session) {heard : Option Reply} : (∀ templateId, progress.state ≠ .complete templateId) →
      Heard progress.state.templateId? (captureAnswer token timeout progress.state session) heard →
      Step progress (.capture session)
        ⟨stateAfter progress.state ((capture token timeout progress.state).on session).1,
          progress.replies ++ heard.toList⟩
  | cancelled (session : Session) :
      Step progress (.cancel session) ⟨stateAfter progress.state ((abandon token).on session).1, []⟩

/-- A fresh enrollment goes on with one call after another. -/
inductive Progress.Run : List Call → Progress → Prop where
  | start : Run [] ⟨.notStarted, []⟩
  | step {calls : List Call} {progress next : Progress} {call : Call} : Run calls progress →
      progress.Step token timeout call next → Run (calls ++ [call]) next

/-! ## What replies say about the state -/

/-- The templates that were begun. -/
def begun (replies : List Reply) : List Bytes :=
  replies.filterMap Reply.templateId?

/-- The count reported with the latest good sample. -/
def latest? (replies : List Reply) : Option UInt64 :=
  (replies.filterMap Reply.good?).getLast?

/-- An enrollment stands where the decoded replies put it. -/
structure Progress.Tracked (progress : Progress) : Prop where
  fresh : progress.state = .notStarted ↔ begun progress.replies = []
  template : progress.state.templateId?.toList = begun progress.replies
  remaining : progress.state.remaining? = latest? progress.replies
  positive : ∀ templateId remaining, progress.state = .capturing templateId remaining → 0 < remaining
  complete : (∃ templateId, progress.state = .complete templateId) ↔ some 0 ∈ progress.replies.map Reply.good?

section Advance

variable (state : Enrollment) (templateId : Bytes) (reply : Reply)

@[simp] theorem templateId?_advance : (state.advance templateId reply.sample).templateId? = some templateId := by
  unfold Enrollment.advance
  split_ifs <;> rfl

theorem advance_ne_notStarted : state.advance templateId reply.sample ≠ .notStarted := by
  unfold Enrollment.advance
  split_ifs <;> simp

theorem remaining?_advance :
    (state.advance templateId reply.sample).remaining? = reply.good?.or state.remaining? := by
  unfold Enrollment.advance Reply.good?
  split_ifs <;> simp_all [Enrollment.remaining?]

theorem advance_eq_complete_iff :
    (∃ id, state.advance templateId reply.sample = .complete id) ↔ reply.good? = some 0 := by
  unfold Enrollment.advance Reply.good?
  split_ifs <;> simp_all

theorem pos_of_advance_eq_capturing {id : Bytes} {remaining : UInt64}
    (h : state.advance templateId reply.sample = .capturing id remaining) : 0 < remaining := by
  unfold Enrollment.advance at h
  split_ifs at h with rejected done
  obtain ⟨-, rfl⟩ := Enrollment.capturing.inj h
  exact UInt64.pos_iff_ne_zero.2 done

end Advance

theorem latest?_concat (replies : List Reply) (reply : Reply) :
    latest? (replies ++ [reply]) = reply.good?.or (latest? replies) := by
  unfold latest?
  cases h : reply.good? <;> simp [h]

namespace Progress

variable {state : Enrollment} {replies : List Reply}

theorem tracked_start : Tracked ⟨.notStarted, []⟩ := by
  refine ⟨?_, ?_, ?_, ?_, ?_⟩ <;> simp [begun, latest?, Enrollment.templateId?, Enrollment.remaining?]

theorem Tracked.not_complete (h : Tracked ⟨state, replies⟩) (unfinished : ∀ id, state ≠ .complete id) :
    some 0 ∉ replies.map Reply.good? := by
  intro mem
  obtain ⟨id, same⟩ := h.complete.2 mem
  exact unfinished id same

theorem Tracked.advance (h : Tracked ⟨state, replies⟩) (unfinished : ∀ id, state ≠ .complete id) {templateId : Bytes}
    {reply : Reply} (template : begun (replies ++ [reply]) = [templateId]) :
    Tracked ⟨state.advance templateId reply.sample, replies ++ [reply]⟩ where
  fresh := by simp [advance_ne_notStarted, template]
  template := by simp [template]
  remaining := by rw [remaining?_advance, latest?_concat, h.remaining]
  positive id remaining same := pos_of_advance_eq_capturing _ _ _ same
  complete := by
    rw [advance_eq_complete_iff, List.map_append, List.mem_append]
    simp [h.not_complete unfinished, eq_comm]

end Progress

/-! ## What a call sends -/

variable {token timeout} {state : Enrollment} {session : Session}

/-- A capture that takes a sample sends one request, signed, for the template it is about. -/
theorem sends_takeSample (token : Token) (timeout : Option Duration) (session : Session) (state : Enrollment) :
    (takeSample token timeout state).Sends
      [signedRequest token session (captureCommand state) (captureParams timeout state)] session := by
  unfold takeSample captureCommand captureParams
  cases state.templateId? with
  | none => exact sends_beginEnrollment token timeout session
  | some templateId => exact (sends_captureNext token templateId timeout session).bind fun _ => still_pure _

/-! ## What a call leaves -/

theorem capture_complete (templateId : Bytes) :
    (capture token timeout (.complete templateId)).on session =
      (.ok (.complete templateId, .ok (some templateId)), session) := rfl

/-- What a capture reports about a decoded reply. -/
def Reply.report (templateId : Bytes) (reply : Reply) : Result (Option Bytes) :=
  if reply.sample.feedback ≠ 0 then .error (.rejectedSample reply.sample.feedback)
  else if reply.sample.remaining = 0 then .ok (some templateId)
  else .ok none

theorem outcome_advance (state : Enrollment) (templateId : Bytes) (reply : Reply) :
    (state.advance templateId reply.sample).outcome = reply.report templateId := by
  unfold Enrollment.advance Reply.report
  split_ifs <;> rfl

/-- A sample is taken when a reply is heard in the answer, and only then. -/
theorem takeSample_on (token : Token) (timeout : Option Duration) (session : Session) (state : Enrollment) :
    (∃ failure, ((takeSample token timeout state).on session).1 = .error failure ∧
      Unread (captureAnswer token timeout state session) failure ∧
      Heard state.templateId? (captureAnswer token timeout state session) none) ∨
    ∃ templateId reply, ((takeSample token timeout state).on session).1 = .ok (templateId, reply.sample) ∧
      state.templateId?.toList ++ begun [reply] = [templateId] ∧
      Heard state.templateId? (captureAnswer token timeout state session) (some reply) := by
  unfold takeSample captureAnswer captureCommand captureParams
  cases state.templateId? with
  | none =>
      have heard := heard_beginning (signedAnswer token session 0x01 (sampleParams timeout none))
      simp only [beginEnrollment_on]
      cases read : (signedAnswer token session 0x01 (sampleParams timeout none)).bind readBeginning with
      | error failure =>
          rw [read] at heard
          exact .inl ⟨failure, rfl, unread_of_bind read, heard⟩
      | ok first =>
          rw [read] at heard
          exact .inr ⟨first.1, .begun first.1 first.2, rfl, rfl, heard⟩
  | some templateId =>
      have heard := heard_next templateId (signedAnswer token session 0x02 (sampleParams timeout (some templateId)))
      simp only [on_map, captureNext_on]
      cases read : (signedAnswer token session 0x02 (sampleParams timeout (some templateId))).bind readNext with
      | error failure =>
          rw [read] at heard
          exact .inl ⟨failure, rfl, unread_of_bind read, heard⟩
      | ok sample =>
          rw [read] at heard
          exact .inr ⟨templateId, .sampled sample, rfl, rfl, heard⟩

theorem capture_on (unfinished : ∀ id, state ≠ .complete id) :
    (capture token timeout state).on session =
      match (takeSample token timeout state).on session with
      | (.ok (templateId, sample), after) =>
        (.ok (state.advance templateId sample, (state.advance templateId sample).outcome), after)
      | (.error failure, after) => (.ok (state, .error failure), after) := by
  cases state with
  | complete id => exact absurd rfl (unfinished id)
  | notStarted => rfl
  | capturing _ _ => rfl
  | rejected _ _ _ => rfl

theorem sends_capture (unfinished : ∀ id, state ≠ .complete id) : (capture token timeout state).Sends
    [signedRequest token session (captureCommand state) (captureParams timeout state)] session := by
  refine (sends_takeSample token timeout session state).of_after_eq ?_
  rw [capture_on unfinished]
  rcases (takeSample token timeout state).on session with ⟨_ | _, _⟩ <;> rfl

/-- What a capture on a session does to an enrollment that is not complete: it either hears no reply, or goes on by the
reply that it hears and reports it. -/
theorem capture_unfinished (token : Token) (timeout : Option Duration) (session : Session)
    (unfinished : ∀ id, state ≠ .complete id) :
    (∃ failure, ((capture token timeout state).on session).1 = .ok (state, .error failure) ∧
      Unread (captureAnswer token timeout state session) failure ∧
      Heard state.templateId? (captureAnswer token timeout state session) none) ∨
    ∃ templateId reply, ((capture token timeout state).on session).1 =
        .ok (state.advance templateId reply.sample, reply.report templateId) ∧
      state.templateId?.toList ++ begun [reply] = [templateId] ∧
      Heard state.templateId? (captureAnswer token timeout state session) (some reply) := by
  rw [capture_on unfinished]
  rcases takeSample_on token timeout session state with
    ⟨failure, taken, unread, heard⟩ | ⟨templateId, reply, taken, template, heard⟩
  · refine .inl ⟨failure, ?_, unread, heard⟩
    rcases sample : (takeSample token timeout state).on session with ⟨_ | _, after⟩ <;> rw [sample] at taken
    · cases taken
      rfl
    · cases taken
  · refine .inr ⟨templateId, reply, ?_, template, heard⟩
    rw [← outcome_advance state]
    rcases sample : (takeSample token timeout state).on session with ⟨_ | _, after⟩ <;> rw [sample] at taken
    · cases taken
    · cases taken
      rfl

/-- The arguments of the request that gives up an enrollment: they name the token's protocol and are not signed. -/
def cancelArguments (token : Token) : List (Option Value) :=
  [some (.ofByte modality), some (.ofByte 0x03), none, some (.ofByte token.protocol.version), none, none]

variable (token session) in
theorem abandon_on : (abandon token).on session =
    (.ok (.notStarted, ((cancelEnrollment token).on session).1), ((cancelEnrollment token).on session).2) := rfl

theorem encode_cancelArguments (command : Command) :
    Request.encode command (some (Request.pack (cancelArguments token))) =
      .ok (command.byte :: writeMap (Request.fields (cancelArguments token))) := by
  refine Request.encode_pack _ (by simp [cancelArguments]) fun argument mem => ?_
  simp only [cancelArguments, List.mem_cons, List.not_mem_nil, or_false, Option.some.injEq, reduceCtorEq,
    false_or] at mem
  rcases mem with rfl | rfl | rfl <;> rfl

theorem sends_abandon : (abandon token).Sends
    [(Signer.fingerprints.command session.info).byte :: writeMap (Request.fields (cancelArguments token))] session := by
  have sent : (cancelEnrollment token).Sends _ session :=
    .unattended (.bind (.after (on_flavor "bioEnroll" _ _) (Session.sends_send (encode_cancelArguments _)))
      fun _ => still_pure _)
  exact sent.of_after_eq rfl

/-! ## Steps -/

namespace Progress

variable {progress next other : Progress} {call : Call} {calls : List Call}

/-- A capture either leaves an enrollment as it was, or adds a reply and goes on by it. -/
theorem Step.capture_cases (h : progress.Step token timeout (.capture session) next) :
    next = progress ∨ ∃ templateId reply, (∀ id, progress.state ≠ .complete id) ∧
      progress.state.templateId?.toList ++ begun [reply] = [templateId] ∧
      next = ⟨progress.state.advance templateId reply.sample, progress.replies ++ [reply]⟩ := by
  obtain ⟨state, replies⟩ := progress
  cases h with
  | finished session finished =>
      cases finished
      exact .inl rfl
  | captured session unfinished heard =>
      rcases capture_unfinished token timeout session unfinished with
        ⟨failure, left, -, nothing⟩ | ⟨templateId, reply, left, template, heard'⟩
      · rw [left, heard.unique nothing]
        exact .inl (by simp [stateAfter])
      · rw [left, heard.unique heard']
        exact .inr ⟨templateId, reply, unfinished, template, rfl⟩

theorem Step.eq_of_cancel (h : progress.Step token timeout (.cancel session) next) : next = ⟨.notStarted, []⟩ := by
  cases h with
  | cancelled session => rfl

theorem exists_step (token : Token) (timeout : Option Duration) (progress : Progress) (call : Call) :
    ∃ next, progress.Step token timeout call next := by
  cases call with
  | cancel session => exact ⟨_, .cancelled session⟩
  | capture session =>
      by_cases finished : ∃ id, progress.state = .complete id
      · exact ⟨_, .finished session finished.choose_spec⟩
      · have unfinished := not_exists.1 finished
        rcases capture_unfinished token timeout session unfinished with
          ⟨failure, -, -, heard⟩ | ⟨templateId, reply, -, -, heard⟩
        · exact ⟨_, .captured session unfinished heard⟩
        · exact ⟨_, .captured session unfinished heard⟩

theorem Step.unique (h : progress.Step token timeout call next) (h' : progress.Step token timeout call other) :
    next = other := by
  cases h with
  | cancelled session => exact h'.eq_of_cancel.symm
  | finished session finished =>
      cases h' with
      | finished => rfl
      | captured _ unfinished => exact absurd finished (unfinished _)
  | captured session unfinished heard =>
      cases h' with
      | finished _ finished => exact absurd finished (unfinished _)
      | captured _ _ heard' => rw [heard.unique heard']

/-- No call loses track of the replies. -/
theorem Step.tracked (h : progress.Step token timeout call next) (tracked : progress.Tracked) : next.Tracked := by
  cases call with
  | cancel session =>
      rw [h.eq_of_cancel]
      exact tracked_start
  | capture session =>
      rcases h.capture_cases with rfl | ⟨templateId, reply, unfinished, template, rfl⟩
      · exact tracked
      · refine Tracked.advance tracked unfinished ?_
        rw [begun, List.filterMap_append, ← begun, ← begun, ← tracked.template, template]

theorem Step.templateId?_eq {templateId : Bytes} (h : progress.Step token timeout (.capture session) next)
    (begun : progress.state.templateId? = some templateId) : next.state.templateId? = some templateId := by
  rcases h.capture_cases with rfl | ⟨taken, reply, -, template, rfl⟩
  · exact begun
  · rw [templateId?_advance]
    rw [begun] at template
    simp at template
    rw [template.1]

/-! ## Runs -/

theorem exists_run (token : Token) (timeout : Option Duration) (calls : List Call) :
    ∃ progress, Run token timeout calls progress := by
  induction calls using List.reverseRecOn with
  | nil => exact ⟨_, .start⟩
  | append_singleton calls call ih =>
      obtain ⟨progress, run⟩ := ih
      obtain ⟨next, step⟩ := exists_step token timeout progress call
      exact ⟨next, run.step step⟩

theorem Run.unique (h : Run token timeout calls progress) (h' : Run token timeout calls other) : progress = other := by
  induction h generalizing other with
  | start =>
      generalize none : ([] : List Call) = calls at h'
      cases h' with
      | start => rfl
      | step => simp at none
  | @step calls before next call run step ih =>
      generalize split : calls ++ [call] = all at h'
      cases h' with
      | start => simp at split
      | step run' step' =>
          obtain ⟨rfl, same⟩ := List.append_inj' split rfl
          cases same
          cases ih run'
          exact step.unique step'

/-- What every call preserves holds after every run. -/
theorem Run.tracked (h : Run token timeout calls progress) : progress.Tracked := by
  induction h with
  | start => exact tracked_start
  | step run step tracked => exact step.tracked tracked

/-- An enrollment stands where the replies heard since its start or the last cancellation put it. Every run leads to one
progress. From there, a complete enrollment takes no more samples and sends nothing; any other one sends one request with
each capture, which begins a template or names the one that was begun, and changes only by the reply that is read from
the answer; and giving up forgets the enrollment whether its one request succeeds or fails. -/
theorem enrollment_follows_replies (token : Token) (timeout : Option Duration) (calls : List Call) :
    ∃ progress, (∀ other, Run token timeout calls other ↔ other = progress) ∧ progress.Tracked ∧ ∀ session,
      let state := progress.state
      let captured := (capture token timeout state).on session
      let request := captureRequest token timeout state session
      let answer := captureAnswer token timeout state session
      (∀ templateId next, state.templateId? = some templateId → progress.Step token timeout (.capture session) next →
        next.state.templateId? = some templateId) ∧
      ((∃ templateId, state = .complete templateId ∧ captured = (.ok (state, .ok (some templateId)), session)) ∨
        (∀ templateId, state ≠ .complete templateId) ∧
        IsSigned token session (captureCommand state) (captureParams timeout state) request ∧
        (capture token timeout state).Sends [request] session ∧
        ((∃ failure, captured.1 = .ok (state, .error failure) ∧ Unread answer failure ∧
            Heard state.templateId? answer none) ∨
          ∃ templateId reply, captured.1 = .ok (state.advance templateId reply.sample, reply.report templateId) ∧
            state.templateId?.toList ++ begun [reply] = [templateId] ∧
            Heard state.templateId? answer (some reply))) ∧
      ((∃ result, ((abandon token).on session).1 = .ok (.notStarted, result)) ∧
        (∀ next, progress.Step token timeout (.cancel session) next → next = ⟨.notStarted, []⟩) ∧
        (abandon token).Sends [(Signer.fingerprints.command session.info).byte ::
          writeMap (Request.fields (cancelArguments token))] session) := by
  obtain ⟨progress, run⟩ := exists_run token timeout calls
  refine ⟨progress, fun other => ⟨fun run' => run'.unique run, fun same => same ▸ run⟩, run.tracked, fun session => ?_⟩
  refine ⟨fun templateId next begun step => step.templateId?_eq begun, ?_,
    ⟨_, congrArg Prod.fst (abandon_on token session)⟩, fun next step => step.eq_of_cancel, sends_abandon⟩
  by_cases finished : ∃ id, progress.state = .complete id
  · obtain ⟨id, same⟩ := finished
    refine .inl ⟨id, same, ?_⟩
    rw [same]
    exact capture_complete id
  · have unfinished := not_exists.1 finished
    exact .inr ⟨unfinished, isSigned_signedRequest _ (order_sampleParams timeout progress.state.templateId?),
      sends_capture unfinished, capture_unfinished token timeout session unfinished⟩

end Progress

end SecurityKey.Fingerprint
