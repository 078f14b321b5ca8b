import SecurityKey.Proofs.Hid.Exchange
import SecurityKey.Proofs.Session.Calls

/-!
# Requests and answers in lockstep

On a connection that does not fail every request takes one frame, the next that is not a keepalive, and comes out as
that frame says. So it stays over a whole session, whatever is called on it and however the calls end.
-/

namespace SecurityKey

open Link (Arrival Control Port)

namespace Hid

/-- Nothing fails on a connection: messages come in, and the caller cancels. -/
def Calm (arrivals : List (Arrival Frame)) : Prop :=
  ∀ arrival ∈ arrivals, arrival = .cancel ∨ ∃ frame, arrival = .message frame

/-- Whether a frame is a CTAP2 request. -/
def Frame.isRequest (frame : Frame) : Bool :=
  match frame.command with
  | .ok .cbor => true
  | _ => false

/-- The frame that an arrival brings, unless it is a keepalive. -/
def answer? : Arrival Frame → Option Frame
  | .message frame => if frame.isKeepalive then none else some frame
  | _ => none

/-- The frames that are no keepalives. -/
def answers (arrivals : List (Arrival Frame)) : List Frame :=
  arrivals.filterMap answer?

/-- How a request ends that is answered by a frame, or not at all. -/
def decided : Option Frame → Except Link.Failure Bytes
  | some frame => frame.decision .cbor
  | none => .error .closed

variable {arrivals : List (Arrival Frame)}

theorem answers_ending (arrivals : List (Arrival Frame)) : answers (ending arrivals) = answers arrivals := by
  induction arrivals with
  | nil => rfl
  | cons arrival rest ih =>
      rw [ending_cons]
      split
      · rename_i waits
        have passed : answer? arrival = none := by
          cases arrival with
          | message frame => simpa [answer?, keepsWaiting] using waits
          | _ => rfl
        simpa [answers, passed] using ih
      · rfl

theorem isKeepalive_of_mem_answers {frame : Frame} (h : frame ∈ answers arrivals) : frame.isKeepalive = false := by
  obtain ⟨arrival, -, brought⟩ := List.mem_filterMap.1 h
  cases arrival with
  | message received =>
      simp only [answer?] at brought
      split at brought
      · cases brought
      · rename_i other
        cases brought
        simpa using other
  | _ => cases brought

theorem answers_messages {frames : List Frame} (h : ∀ frame ∈ frames, frame.isKeepalive = false) :
    answers (frames.map .message) = frames := by
  induction frames with
  | nil => rfl
  | cons frame frames ih =>
      have rest : answers (frames.map .message) = frames := ih fun frame mem => h frame (by simp [mem])
      have first : answer? (.message frame) = some frame := by simp [answer?, h frame]
      rw [List.map_cons, answers, List.filterMap_cons, first]
      exact congrArg (frame :: ·) rest

theorem calm_messages (frames : List Frame) : Calm (frames.map .message) := by
  intro arrival mem
  obtain ⟨frame, -, rfl⟩ := List.mem_map.1 mem
  exact .inr ⟨frame, rfl⟩

theorem Calm.ending (h : Calm arrivals) : Calm (ending arrivals) :=
  fun arrival mem => h arrival (List.dropWhile_subset _ mem)

/-- A wait on a calm connection ends with nothing or with a frame that is no keepalive. -/
theorem Calm.ending_cases (h : Calm arrivals) : Hid.ending arrivals = [] ∨
    ∃ frame rest, Hid.ending arrivals = .message frame :: rest ∧ answer? (.message frame) = some frame := by
  cases ended : Hid.ending arrivals with
  | nil => exact .inl rfl
  | cons arrival rest =>
      have stops : keepsWaiting arrival = false := by
        have := List.head?_dropWhile_not keepsWaiting arrivals
        rw [← Hid.ending, ended] at this
        simpa using this
      obtain rfl | ⟨frame, rfl⟩ := h.ending arrival (by simp [ended])
      · cases stops
      · exact .inr ⟨frame, rest, rfl, by simpa [answer?, keepsWaiting] using stops⟩

theorem Calm.outcome_ending (h : Calm arrivals) :
    outcome .cbor (Hid.ending arrivals) = decided (answers arrivals).head? := by
  rw [← answers_ending]
  obtain ended | ⟨frame, rest, ended, answer⟩ := h.ending_cases
  · rw [ended]
    rfl
  · rw [ended, answers, List.filterMap_cons, answer]
    rfl

theorem Calm.answers_tail_ending (h : Calm arrivals) :
    answers (Hid.ending arrivals).tail = (answers arrivals).tail := by
  rw [← answers_ending arrivals]
  obtain ended | ⟨frame, rest, ended, answer⟩ := h.ending_cases
  · rw [ended]
    rfl
  · rw [ended, answers, answers, List.filterMap_cons, answer]
    rfl

end Hid

namespace Link

open Hid (Frame)

/-- The link is one over CTAPHID on which nothing fails. -/
def IsCalm : Link → Prop
  | hid port _ => Hid.Calm port.arrivals
  | card _ _ => False

/-- The frames to come that are no keepalives. -/
def answers : Link → List Frame
  | hid port _ => Hid.answers port.arrivals
  | card _ _ => []

/-- The CTAP2 requests that were sent. -/
def requests : Link → List Frame
  | hid port _ => port.sent.filter Frame.isRequest
  | card _ _ => []

/-- Exchanges in lockstep: each request was sent, took one answer, and came out as that answer says. -/
structure Lockstep (before : Link) (made : List Exchange) (after : Link) : Prop where
  calm : after.IsCalm
  outcomes : ∀ (k : Nat) (exchange : Exchange), made[k]? = some exchange →
    exchange.outcome = Hid.decided before.answers[k]?
  answers : after.answers = before.answers.drop made.length
  requests : after.requests = before.requests ++ made.map fun exchange => Frame.ofCommand .cbor exchange.request

/-- A connection on which the given frames come in and nothing else. -/
def bringing (frames : List Frame) : Link :=
  hid ⟨frames.map .message, [], none⟩ none

variable {link before after : Link} {made : List Exchange}

theorem answers_bringing_take (link : Link) (n : Nat) :
    (bringing (link.answers.take n)).answers = link.answers.take n := by
  refine Hid.answers_messages fun frame mem => ?_
  cases link with
  | hid port deviceVersion => exact Hid.isKeepalive_of_mem_answers (List.mem_of_mem_take mem)
  | card port extendedLength => simp [answers] at mem

theorem isCalm_bringing (frames : List Frame) : (bringing frames).IsCalm :=
  Hid.calm_messages frames

theorem lockstep_one (calm : link.IsCalm) (request : Bytes) :
    link.Lockstep [⟨request, (link.sendCbor request).1⟩] (link.sendCbor request).2 := by
  cases link with
  | card port extendedLength => cases calm
  | hid port deviceVersion =>
      have calm : Hid.Calm port.arrivals := calm
      have ready : ∀ reason rest, port.arrivals ≠ .sendFailure reason :: rest := by
        intro reason rest eq
        have := calm (.sendFailure reason) (by simp [eq])
        simp at this
      simp only [sendCbor, Hid.exchange_eq (.inl rfl) request ready]
      refine ⟨fun arrival mem => calm.ending arrival (List.mem_of_mem_tail mem), fun k exchange made => ?_, ?_, ?_⟩
      · cases k with
        | succ k => simp at made
        | zero =>
            cases made
            exact calm.outcome_ending.trans (by rw [List.head?_eq_getElem?, Link.answers])
      · simp [Link.answers, Hid.afterWait, calm.answers_tail_ending]
      · simp only [Link.requests, Hid.afterWait]
        rw [List.filter_append]
        split <;> rfl

@[simp] theorem answers_hold (control : Option Control) (link : Link) : (link.hold control).answers = link.answers := by
  cases link <;> rfl

@[simp] theorem requests_hold (control : Option Control) (link : Link) :
    (link.hold control).requests = link.requests := by
  cases link <;> rfl

theorem IsCalm.hold (calm : link.IsCalm) (control : Option Control) : (link.hold control).IsCalm := by
  cases link <;> exact calm

theorem Conversed.lockstep (h : before.Conversed made after) (calm : before.IsCalm) :
    before.Lockstep made after := by
  induction h with
  | nothing => exact ⟨calm, by simp, by simp, by simp⟩
  | @hold made link control _ ih =>
      refine ⟨ih.calm.hold control, ih.outcomes, ?_, ?_⟩
      · rw [answers_hold, ih.answers]
      · rw [requests_hold, ih.requests]
  | @exchange made link request _ ih =>
      -- The last request takes the first of the frames that the earlier ones left.
      have last := lockstep_one ih.calm request
      refine ⟨last.calm, fun k exchange found => ?_, ?_, ?_⟩
      · rcases Nat.lt_or_ge k made.length with old | new
        · rw [List.getElem?_append_left old] at found
          exact ih.outcomes k exchange found
        · rw [List.getElem?_append_right new] at found
          have := last.outcomes _ _ found
          rw [this, ih.answers, List.getElem?_drop, Nat.add_sub_cancel' new]
      · rw [last.answers, ih.answers, List.drop_drop, List.length_append]
      · rw [last.requests, ih.requests, List.map_append, List.append_assoc]

/-- A calm link answers as its frames decide. -/
theorem Answers.of_calm (calm : link.IsCalm) (h : ∀ (k : Nat) (exchange : Exchange), made[k]? = some exchange →
    exchange.outcome = Hid.decided link.answers[k]?) : link.Answers (made.map (·.outcome)) := by
  induction made generalizing link with
  | nil => trivial
  | cons exchange made ih =>
      intro control request
      have step := ((Conversed.nothing.hold control).exchange request).lockstep calm
      refine ⟨?_, ih step.calm fun k exchange found => ?_⟩
      · exact (step.outcomes 0 _ rfl).trans (h 0 exchange rfl).symm
      · rw [h (k + 1) exchange found, step.answers]
        simp

end Link

/-- On a calm link an operation puts exactly the requests that it makes behind those that were sent. -/
theorem Operation.Sends.requests_eq {α : Type} {operation : Operation α} {requests : List Bytes} {session : Session}
    (h : operation.Sends requests session) (calm : session.link.IsCalm) :
    (operation.on session).2.link.requests = session.link.requests ++ requests.map (Hid.Frame.ofCommand .cbor) := by
  obtain ⟨made, rfl, conversed⟩ := h.carried.conversed
  rw [(conversed.lockstep calm).requests, List.map_map]
  rfl

/-! ## Turns -/

/-- A call on a session, and the caller's hold on it. -/
structure Turn where
  {Reply : Type}
  call : Call Reply
  control : Option Control

namespace Turn

/-- The session in which the call of a turn is done. -/
def enter (turn : Turn) (session : Session) : Session :=
  { session with link := session.link.hold turn.control }

/-- The result of a turn. -/
def result (turn : Turn) (session : Session) : Result turn.Reply :=
  (turn.call.perform.on (turn.enter session)).1

/-- The session after a turn. -/
def after (turn : Turn) (session : Session) : Session :=
  (turn.call.perform.on (turn.enter session)).2

end Turn

namespace Session

/-- The session after the given turns, one after another. -/
def afterTurns (turns : List Turn) (session : Session) : Session :=
  turns.foldl (fun session turn => turn.after session) session

end Session

theorem Turn.makes (turn : Turn) (session : Session) : ∃ made,
    session.link.Conversed made (turn.after session).link ∧
    ∀ link : Link, link.Answers (made.map (·.outcome)) →
      turn.result { session with link } = turn.result session := by
  obtain ⟨made, conversed, elsewhere⟩ : ∃ made, turn.call.perform.Makes made (turn.enter session) :=
    Operation.Orderly.makes (turn.enter session)
  refine ⟨made, conversed.of_hold, fun link answers => ?_⟩
  obtain ⟨after, -, same⟩ := elsewhere (link.hold turn.control) (answers.hold _)
  have same : turn.call.perform.on (turn.enter { session with link }) = _ := same
  unfold result
  rw [same]

theorem Session.conversed_afterTurns (turns : List Turn) (session : Session) :
    ∃ made, session.link.Conversed made (session.afterTurns turns).link := by
  induction turns generalizing session with
  | nil => exact ⟨[], .nothing⟩
  | cons turn turns ih =>
      obtain ⟨first, conversed, -⟩ := turn.makes session
      obtain ⟨later, conversed'⟩ := ih (turn.after session)
      exact ⟨_, conversed.trans conversed'⟩

/-- Whatever was called on a session before, on a connection that does not fail: every request that was sent took one
frame that is no keepalive, the `k`-th request the `k`-th of them, and ended as that frame says. So a call comes to the
result that it has on a connection on which nothing but its own answers come in. -/
theorem requests_take_their_answers (earlier : List Turn) (turn : Turn) {session : Session}
    (calm : session.link.IsCalm) :
    let before := session.afterTurns earlier
    let after := turn.after before
    ∃ past own : List Link.Exchange,
      session.link.Conversed past before.link ∧ session.link.Lockstep past before.link ∧
      before.link.Conversed own after.link ∧ session.link.Lockstep (past ++ own) after.link ∧
      turn.result before =
        turn.result { before with link := .bringing (before.link.answers.take own.length) } := by
  intro before after
  obtain ⟨past, conversed⟩ := Session.conversed_afterTurns earlier session
  obtain ⟨own, conversed', elsewhere⟩ := turn.makes before
  have steps := conversed.lockstep calm
  have steps' := conversed'.lockstep steps.calm
  refine ⟨past, own, conversed, steps, conversed', (conversed.trans conversed').lockstep calm, ?_⟩
  -- With its own answers alone the exchanges of the call end as they did, and it learns nothing else of the link.
  refine (elsewhere _ (.of_calm (Link.isCalm_bringing _) fun k exchange found => ?_)).symm
  have inside : k < own.length := (List.getElem?_eq_some_iff.1 found).1
  rw [steps'.outcomes k exchange found, Link.answers_bringing_take, List.getElem?_take_of_lt inside]

/-- An authenticator that is busy when it is first asked to be selected, and then is selected. -/
def busySession : Session where
  link := .bringing [Hid.Frame.ofCommand .error [0x06], Hid.Frame.ofCommand .cbor [0x00]]
  info := {}
  config := {}
  entropy := ⟨fun _ => 0, 0⟩

/-- A selection that the caller cancelled, and a check that fails without a request. -/
def busyTurns : List Turn :=
  [⟨.selection, some { cancelled := true }⟩, ⟨.requireSettings, none⟩]

theorem isCalm_busySession : busySession.link.IsCalm :=
  Link.isCalm_bringing _

theorem selection_takes_second_answer : busySession.link.IsCalm ∧
    let before := busySession.afterTurns busyTurns
    ∃ past own : List Link.Exchange,
      busySession.link.Conversed past before.link ∧
      before.link.Conversed own (Turn.after ⟨.selection, none⟩ before).link ∧
      past.map (·.outcome) = [.error (.hidError 0x06)] ∧ own.map (·.outcome) = [.ok [0x00]] := by
  refine ⟨isCalm_busySession, ?_⟩
  obtain ⟨past, own, conversed, steps, conversed', both, -⟩ :=
    requests_take_their_answers busyTurns ⟨.selection, none⟩ isCalm_busySession
  refine ⟨past, own, conversed, conversed', ?_⟩
  have sent : (busySession.afterTurns busyTurns).link.requests.length = 1 := rfl
  have sent' : (Turn.after ⟨.selection, none⟩ (busySession.afterTurns busyTurns)).link.requests.length = 2 := rfl
  rw [steps.requests, List.length_append, List.length_map] at sent
  rw [both.requests, List.length_append, List.length_map, List.length_append] at sent'
  have none : busySession.link.requests.length = 0 := rfl
  obtain ⟨first, rfl⟩ := List.length_eq_one_iff.1 (by omega : past.length = 1)
  obtain ⟨second, rfl⟩ := List.length_eq_one_iff.1 (by omega : own.length = 1)
  have refused : first.outcome = .error (.hidError 0x06) := both.outcomes 0 first rfl
  have taken : second.outcome = .ok [0x00] := both.outcomes 1 second rfl
  simp [refused, taken]

end SecurityKey
