import SecurityKey.Proofs.Session.Detection
import SecurityKey.Proofs.Session.Lockstep

/-!
# What a session knows

Of its authenticator a session knows the info that it was told last. Questions that are not answered with one do not
change that, nor does anything else, and the settings and the kind of link stay the same from the opening on. So what a
call decides depends on the last info and on the settings alone.
-/

namespace SecurityKey

/-! ## The last info -/

namespace Info

/-- Of some answers to questions for the info, one after another, the last one that tells any tells the given one. -/
def Latest (answers : List (Except Link.Failure Bytes)) (info : Info) : Prop :=
  ∃ earlier answer later, answers = earlier ++ answer :: later ∧ Told answer (.ok info) ∧
    ∀ answer ∈ later, ∀ info, ¬Told answer (.ok info)

variable {answers : List (Except Link.Failure Bytes)} {answer : Except Link.Failure Bytes} {info : Info}

theorem latest_of_told (answers : List (Except Link.Failure Bytes)) (told : Told answer (.ok info)) :
    Latest (answers ++ [answer]) info :=
  ⟨answers, answer, [], rfl, told, by simp⟩

theorem Latest.untold {failure : Failure} (h : Latest answers info) (told : Told answer (.error failure)) :
    Latest (answers ++ [answer]) info := by
  obtain ⟨earlier, last, later, rfl, holds, silent⟩ := h
  refine ⟨earlier, last, later ++ [answer], by simp, holds, List.forall_mem_append.2 ⟨silent, ?_⟩⟩
  refine List.forall_mem_singleton.2 fun info told' => ?_
  cases (told_iff.1 told).symm.trans (told_iff.1 told')

end Info

/-! ## Opening -/

namespace Link

@[simp] theorem supportsCancellation_hold (control : Option Control) (link : Link) :
    (link.hold control).supportsCancellation = link.supportsCancellation := by
  cases link <;> rfl

@[simp] theorem supportsCancellation_sendCbor (request : Bytes) (link : Link) :
    (link.sendCbor request).2.supportsCancellation = link.supportsCancellation := by
  cases link <;> rfl

theorem supportsCancellation_select (link : Link) :
    link.select.2.supportsCancellation = link.supportsCancellation := by
  cases link <;> rfl

theorem Conversed.supportsCancellation {before after : Link} {made : List Exchange} (h : before.Conversed made after) :
    after.supportsCancellation = before.supportsCancellation := by
  induction h with
  | nothing => rfl
  | hold control _ ih => rw [supportsCancellation_hold, ih]
  | exchange request _ ih => rw [supportsCancellation_sendCbor, ih]

theorem conversed_askInfo (link : Link) : link.Conversed [⟨[0x04], link.askInfo.1⟩] link.askInfo.2 :=
  (Conversed.one [0x04] (link.heed false)).of_heed.heed link.isHeeding

end Link

/-- A session is opened on a link: for CTAP2, or for whatever the caller wishes to speak with the authenticator. -/
inductive Opens (config : Config) (entropy : Entropy) (link : Link) (session : Session) : Prop where
  | alone {after : Link} : Session.establish config entropy link = (.ok session, after) →
      Opens config entropy link session
  | wished {wish : Authenticator.Wish} {after : Link} :
      Authenticator.establish wish config entropy link = (.ok (.ctap2 session), after) →
      Opens config entropy link session

section Opening

variable {config : Config} {entropy : Entropy} {link after : Link} {session : Session}

theorem Authenticator.connect_of_connects {wish : Wish}
    (h : connect wish config entropy link = (.ok (.ctap2 session), after)) :
    Session.connect config entropy link = (.ok session, after) := by
  rcases connected : Session.connect config entropy link with ⟨failure | opened, between⟩
  · cases wish with
    | ctap2 => simp [connect, connected, Except.map] at h
    | u2f => simp [connect] at h
    | newest =>
        -- An authenticator that does not tell its info is used with U2F at most.
        rcases told : U2f.getVersion.on between with ⟨_ | _, _⟩ <;> simp [connect, detect, connected, told] at h
  · cases wish with
    | ctap2 => simpa [connect, connected, Except.map] using h
    | u2f => simp [connect] at h
    | newest => simpa [connect, detect, connected] using h

theorem Opens.selected (h : Opens config entropy link session) :
    ∃ selected after, link.select = (.ok (), selected) ∧
      Session.connect config entropy selected = (.ok session, after) := by
  rcases selects : link.select with ⟨reason | _, selected⟩
  · cases h with
    | alone established => simp [Session.establish, selects] at established
    | wished established => simp [Authenticator.establish, selects] at established
  · cases h with
    | alone established => exact ⟨selected, _, rfl, by simpa [Session.establish, selects] using established⟩
    | wished established =>
        simp only [Authenticator.establish, selects] at established
        exact ⟨selected, _, rfl, Authenticator.connect_of_connects established⟩

theorem Session.eq_of_connect (h : connect config entropy link = (.ok session, after)) :
    Info.Told link.askInfo.1 (.ok session.info) ∧
      session = { link := link.askInfo.2, info := session.info, config, entropy } := by
  rcases asked : link.askInfo with ⟨answer, between⟩
  rw [connect_of_told asked (Info.told_ofAnswer answer)] at h
  cases decoded : Info.ofAnswer answer with
  | error failure => simp [decoded, Except.map] at h
  | ok info =>
      rw [decoded] at h
      cases h
      exact ⟨Info.told_iff.2 decoded, rfl⟩

end Opening

theorem Session.getInfo_with (session : Session) (info : Info) (config : Config) :
    (getInfo.on { session with info, config }).1 = (getInfo.on session).1 ∧
      (getInfo.on { session with info, config }).2.link = (getInfo.on session).2.link := by
  rw [getInfo_on, getInfo_on]
  cases Info.ofAnswer session.link.askInfo.1 <;> exact ⟨rfl, rfl⟩

/-! ## Turns -/

namespace Turn

/-- The answer to the question for the info, when a turn asks it. -/
def infoAnswers (turn : Turn) (session : Session) : List (Except Link.Failure Bytes) :=
  if turn.call.refreshes then [(turn.enter session).link.askInfo.1] else []

variable {turn : Turn} {session : Session} {answers : List (Except Link.Failure Bytes)}

theorem keeps (stays : turn.call.refreshes = false) (session : Session) :
    (turn.after session).info = session.info ∧ (turn.after session).config = session.config :=
  (Call.composed_perform stays).keeps (turn.enter session)

theorem eq_getInfo (asks : turn.call.refreshes = true) : turn = ⟨.getInfo, turn.control⟩ := by
  obtain ⟨call, control⟩ := turn
  cases call <;> cases asks
  rfl

/-- A question for the info is answered with one, which the session then knows, or the session knows what it knew. -/
theorem getInfo_cases (control : Option Link.Control) (session : Session) :
    let ask : Turn := ⟨.getInfo, control⟩
    (ask.after session).config = session.config ∧
    ((∃ info, Info.Told (ask.enter session).link.askInfo.1 (.ok info) ∧
      ask.result session = .ok info ∧ (ask.after session).info = info) ∨
    ∃ failure, Info.Told (ask.enter session).link.askInfo.1 (.error failure) ∧
      ask.result session = .error failure ∧ (ask.after session).info = session.info) := by
  intro ask
  have asked : ask.call.perform.on (ask.enter session) = _ := Session.getInfo_on (ask.enter session)
  unfold result after
  rw [asked]
  cases decoded : Info.ofAnswer (ask.enter session).link.askInfo.1 with
  | ok info => exact ⟨rfl, .inl ⟨info, Info.told_iff.2 decoded, rfl, rfl⟩⟩
  | error failure => exact ⟨rfl, .inr ⟨failure, Info.told_iff.2 decoded, rfl, rfl⟩⟩

theorem config_after (turn : Turn) (session : Session) : (turn.after session).config = session.config := by
  cases asks : turn.call.refreshes with
  | false => exact (keeps asks session).2
  | true =>
      rw [eq_getInfo asks]
      exact (getInfo_cases turn.control session).1

theorem latest_after (turn : Turn) (h : Info.Latest answers session.info) :
    Info.Latest (answers ++ turn.infoAnswers session) (turn.after session).info := by
  cases asks : turn.call.refreshes with
  | false => simpa [infoAnswers, asks, (keeps asks session).1] using h
  | true =>
      rw [eq_getInfo asks]
      obtain ⟨-, ⟨info, told, -, known⟩ | ⟨failure, told, -, known⟩⟩ := getInfo_cases turn.control session
      · rw [known]
        exact Info.latest_of_told answers told
      · rw [known]
        exact h.untold told

/-- What a call comes to and what it leaves of the link depends on the known info and the settings through the decisions
alone. -/
theorem on_of_decisions (turn : Turn) {info : Info} {config : Config} (session : Session)
    (same : ∀ {γ : Type} (decision : Decision γ),
      decision.outcome info config = decision.outcome session.info session.config) :
    turn.result { session with info, config } = turn.result session ∧
      (turn.after { session with info, config }).link = (turn.after session).link := by
  cases asks : turn.call.refreshes with
  | false =>
      have done : turn.call.perform.on (turn.enter { session with info, config }) = _ :=
        (Call.composed_perform asks).on_of_decisions (turn.enter session) same
      unfold result after
      rw [done]
      exact ⟨rfl, rfl⟩
  | true =>
      rw [eq_getInfo asks]
      exact Session.getInfo_with (enter ⟨.getInfo, turn.control⟩ session) info config

/-- A call does the same on every session where the decisions come out the same, the same random bytes are drawn, and
its exchanges end in the same way. -/
theorem recurs (turn : Turn) (session : Session) :
    ∃ made, session.link.Conversed made (turn.after session).link ∧
      ∀ other : Session, session.Agrees other → other.link.Answers (made.map (·.outcome)) →
        other.link.Conversed made (turn.after other).link ∧ turn.result other = turn.result session := by
  obtain ⟨made, makes⟩ : ∃ made, turn.call.perform.Makes made (turn.enter session) :=
    Operation.Orderly.makes (turn.enter session)
  refine ⟨made, makes.conversed.of_hold, ?_⟩
  rintro ⟨link, info, config, _⟩ ⟨decisions, rfl⟩ answers
  -- First the link is replaced, then what the decisions are made by.
  obtain ⟨sameResult, sameLink⟩ := turn.on_of_decisions { session with link } decisions
  obtain ⟨_, conversed, same⟩ := makes.elsewhere (link.hold turn.control) (answers.hold _)
  have same : turn.call.perform.on (turn.enter { session with link }) = _ := same
  rw [sameResult, sameLink]
  unfold result after
  rw [same]
  exact ⟨conversed.of_hold, rfl⟩

end Turn

/-! ## Runs -/

namespace Session

/-- The answers to the questions for the info in a run. -/
def infoAnswers : (turns : List Turn) → Session → List (Except Link.Failure Bytes)
  | [], _ => []
  | turn :: turns, session => turn.infoAnswers session ++ infoAnswers turns (turn.after session)

variable {session : Session} {answers : List (Except Link.Failure Bytes)}

theorem config_afterTurns (turns : List Turn) (session : Session) :
    (session.afterTurns turns).config = session.config := by
  induction turns generalizing session with
  | nil => rfl
  | cons turn turns ih => exact (ih (turn.after session)).trans (turn.config_after session)

theorem latest_afterTurns (turns : List Turn) (h : Info.Latest answers session.info) :
    Info.Latest (answers ++ session.infoAnswers turns) (session.afterTurns turns).info := by
  induction turns generalizing session answers with
  | nil =>
      rw [infoAnswers, List.append_nil]
      exact h
  | cons turn turns ih =>
      have step := ih (turn.latest_after h)
      rwa [List.append_assoc] at step

end Session

variable {config : Config} {entropy : Entropy} {link : Link} {session : Session}

/-- Whatever is called on a session after it was opened, and however it ends: the session knows the info that the last
answer with one told, be it the answer at the opening. A question for the info that fails does not change it, no other
call does, and the settings and the kind of link never change. So every decision is one by that info and the settings,
and they are of no matter for a call but through the decisions. -/
theorem known_info_is_latest (opened : Opens config entropy link session) (turns : List Turn) :
    let current := session.afterTurns turns
    (∃ selected, link.select = (.ok (), selected) ∧
      Info.Latest (selected.askInfo.1 :: session.infoAnswers turns) current.info) ∧
    current.config = config ∧ current.link.supportsCancellation = link.supportsCancellation ∧
    (∀ turn : Turn, turn.call.refreshes = false → (turn.after current).info = current.info) ∧
    (∀ control failure, Turn.result ⟨.getInfo, control⟩ current = .error failure →
      (Turn.after ⟨.getInfo, control⟩ current).info = current.info) ∧
    (∀ {α : Type} (decision : Decision α),
      decision.take.on current = (.ok (decision.outcome current.info config), current)) ∧
    ∀ turn : Turn, ∃ made, current.link.Conversed made (turn.after current).link ∧
      ∀ other : Session, current.Agrees other → other.link.Answers (made.map (·.outcome)) →
        other.link.Conversed made (turn.after other).link ∧ turn.result other = turn.result current := by
  intro current
  obtain ⟨selected, after, selects, connects⟩ := opened.selected
  obtain ⟨told, opens⟩ := Session.eq_of_connect connects
  have settings : current.config = config := (Session.config_afterTurns turns session).trans (congrArg (·.config) opens)
  refine ⟨⟨selected, selects, Session.latest_afterTurns turns (Info.latest_of_told [] told)⟩, settings, ?_,
    fun turn stays => (Turn.keeps stays current).1, fun control failure fails => ?_, fun decision => ?_,
    fun turn => turn.recurs current⟩
  · obtain ⟨made, conversed⟩ := Session.conversed_afterTurns turns session
    have atOpening : session.link = selected.askInfo.2 := congrArg (·.link) opens
    rw [conversed.supportsCancellation, atOpening, selected.conversed_askInfo.supportsCancellation,
      ← link.supportsCancellation_select, selects]
  · obtain ⟨-, ⟨info, -, succeeds, -⟩ | ⟨_, -, -, known⟩⟩ := Turn.getInfo_cases control current
    · cases succeeds.symm.trans fails
    · exact known
  · rw [Decision.take_on, settings]

/-- The info of an authenticator with preview commands. -/
def previewReply : Response :=
  ⟨[(0x01, .array [.text "FIDO_2_1_PRE"])]⟩

/-- A security key with preview commands that tells its info once and is busy when it is asked again. -/
def busyPreviewKey : Link :=
  .bringing [.ofCommand .cbor previewReply.toAnswer, .ofCommand .error [0x06]]

theorem told_previewReply : Info.Told (.ok previewReply.toAnswer) (.ok { versions := ["FIDO_2_1_PRE"] }) := by
  have said : Response.ofAnswer previewReply.toAnswer = .ok (some previewReply) :=
    Response.ofAnswer_toAnswer (by decide) (List.forall_mem_singleton.2
      (.array (by decide) (List.forall_mem_singleton.2 (.text _ (by decide)))))
  rw [Info.told_iff, Info.ofAnswer_ok, said]
  rfl

/-- The session that is opened with it. -/
def busyPreviewSession : Session where
  link := busyPreviewKey.askInfo.2
  info := { versions := ["FIDO_2_1_PRE"] }
  config := {}
  entropy := ⟨fun _ => 0, 0⟩

/-- A question for the info. -/
def asking : Turn :=
  ⟨.getInfo, none⟩

theorem opens_busyPreviewSession : Opens {} ⟨fun _ => 0, 0⟩ busyPreviewKey busyPreviewSession := by
  have asked : busyPreviewKey.askInfo = (.ok previewReply.toAnswer, busyPreviewKey.askInfo.2) := rfl
  exact .alone (Session.connect_of_told asked told_previewReply)

theorem preview_is_used_after_refusal :
    Opens {} ⟨fun _ => 0, 0⟩ busyPreviewKey busyPreviewSession ∧
    asking.result busyPreviewSession = .error (.link (.hidError 0x06)) ∧
    (Decision.command .fingerprints).take.on (asking.after busyPreviewSession) =
      (.ok .bioEnrollmentPreview, asking.after busyPreviewSession) := by
  have refused : asking.result busyPreviewSession = .error (.link (.hidError 0x06)) := rfl
  refine ⟨opens_busyPreviewSession, refused, ?_⟩
  obtain ⟨-, -, -, -, kept, -⟩ := known_info_is_latest opens_busyPreviewSession []
  obtain ⟨-, -, -, -, -, decides, -⟩ := known_info_is_latest opens_busyPreviewSession [asking]
  have known : (asking.after busyPreviewSession).info = busyPreviewSession.info := kept none _ refused
  have decided : (Decision.command .fingerprints).outcome busyPreviewSession.info {} = .bioEnrollmentPreview := by
    decide +kernel
  rw [← decided, ← known]
  exact decides (.command .fingerprints)

end SecurityKey
