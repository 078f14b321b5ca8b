import SecurityKey.Proofs.Session.Operation

/-!
# Conversations

Of a link an operation learns nothing but how its exchanges end. Two links on which they end in the same way are the
same to it: it asks for the same on both, and comes to the same result.
-/

namespace SecurityKey

namespace Link

/-- A request, and how its exchange ended. -/
structure Exchange where
  request : Bytes
  outcome : Except Failure Bytes

/-- The link with another hold on the operation in progress. -/
def hold (control : Option Control) : Link → Link
  | hid port deviceVersion => hid { port with control } deviceVersion
  | card port extendedLength => card { port with control } extendedLength

@[simp] theorem hold_hold (first second : Option Control) (link : Link) :
    (link.hold first).hold second = link.hold second := by
  cases link <;> rfl

@[simp] theorem hold_control (link : Link) : link.hold link.control = link := by
  cases link <;> rfl

theorem heed_eq_hold (heeded : Bool) (link : Link) :
    link.heed heeded = link.hold (link.control.map ({ · with heeded })) := by
  cases link <;> rfl

/-- The link `after` is what `before` becomes in the given exchanges, one after another; in between the caller's hold
may be any. -/
inductive Conversed (before : Link) : List Exchange → Link → Prop where
  | nothing : Conversed before [] before
  | hold {made : List Exchange} {link : Link} (control : Option Control) :
      Conversed before made link → Conversed before made (link.hold control)
  | exchange {made : List Exchange} {link : Link} (request : Bytes) : Conversed before made link →
      Conversed before (made ++ [⟨request, (link.sendCbor request).1⟩]) (link.sendCbor request).2

variable {before between after : Link} {made : List Exchange}

theorem Conversed.trans {earlier later : List Exchange} (first : Conversed before earlier between)
    (second : Conversed between later after) : Conversed before (earlier ++ later) after := by
  induction second with
  | nothing => simpa using first
  | hold control _ ih => exact ih.hold control
  | exchange request _ ih => simpa using ih.exchange request

theorem Conversed.one (request : Bytes) (link : Link) :
    link.Conversed [⟨request, (link.sendCbor request).1⟩] (link.sendCbor request).2 :=
  Conversed.nothing.exchange request

theorem Conversed.of_hold {control : Option Control} (h : (before.hold control).Conversed made after) :
    before.Conversed made after := by
  simpa using (Conversed.nothing.hold control).trans h

theorem Conversed.heed (h : before.Conversed made after) (heeded : Bool) : before.Conversed made (after.heed heeded) := by
  rw [heed_eq_hold]
  exact h.hold _

theorem Conversed.of_heed {heeded : Bool} (h : (before.heed heeded).Conversed made after) :
    before.Conversed made after := by
  rw [heed_eq_hold] at h
  exact h.of_hold

theorem Carried.conversed {requests : List Bytes} (h : before.Carried requests after) :
    ∃ made : List Exchange, made.map (·.request) = requests ∧ before.Conversed made after := by
  induction h with
  | nothing => exact ⟨[], rfl, .nothing⟩
  | heed heeded _ ih =>
      obtain ⟨made, same, conversed⟩ := ih
      exact ⟨made, same, conversed.heed heeded⟩
  | exchange request _ ih =>
      obtain ⟨made, same, conversed⟩ := ih
      exact ⟨_, by simp [same], conversed.exchange request⟩

/-- Whatever is asked on a link, and whoever holds the operation, the exchanges end in turn as given. -/
def Answers : List (Except Failure Bytes) → Link → Prop
  | [], _ => True
  | outcome :: later, link => ∀ control request,
    ((link.hold control).sendCbor request).1 = outcome ∧ Answers later ((link.hold control).sendCbor request).2

theorem Answers.hold {outcomes : List (Except Failure Bytes)} {link : Link} (h : link.Answers outcomes)
    (control : Option Control) : (link.hold control).Answers outcomes := by
  cases outcomes with
  | nil => trivial
  | cons outcome later =>
      intro other request
      simpa using h other request

theorem Answers.heed {outcomes : List (Except Failure Bytes)} {link : Link} (h : link.Answers outcomes)
    (heeded : Bool) : (link.heed heeded).Answers outcomes := by
  rw [heed_eq_hold]
  exact h.hold _

/-- What a link answers after some of its answers were taken. -/
theorem Answers.later {later : List (Except Failure Bytes)} (h : before.Answers (made.map (·.outcome) ++ later))
    (conversed : before.Conversed made after) : after.Answers later := by
  -- What is left to answer stays general: the shorter the history, the more of it there is.
  induction conversed generalizing later with
  | nothing => exact h
  | hold control _ ih => exact (ih h).hold control
  | @exchange made link request _ ih =>
      have next : link.Answers ((link.sendCbor request).1 :: later) := ih (by simpa using h)
      simpa using (next link.control request).2

theorem Answers.earlier {outcomes later : List (Except Failure Bytes)} {link : Link}
    (h : link.Answers (outcomes ++ later)) : link.Answers outcomes := by
  induction outcomes generalizing link with
  | nil => trivial
  | cons outcome outcomes ih => exact fun control request => ⟨(h control request).1, ih (h control request).2⟩

end Link

namespace Operation

variable {α β : Type} {operation : Operation α} {session : Session} {made : List Link.Exchange}

/-- An operation makes the given exchanges on a session. On another link it makes the same exchanges, with the same
result, when they end there in the same way. -/
structure Makes (operation : Operation α) (made : List Link.Exchange) (session : Session) : Prop where
  conversed : session.link.Conversed made (operation.on session).2.link
  elsewhere : ∀ link : Link, link.Answers (made.map (·.outcome)) → ∃ after, link.Conversed made after ∧
    operation.on { session with link } = ((operation.on session).1, { (operation.on session).2 with link := after })

/-- An operation that learns nothing of a link but how its exchanges end. -/
class Orderly (operation : Operation α) : Prop where
  makes : ∀ session, ∃ made, operation.Makes made session

/-- An operation that does not use the link. -/
theorem makes_of_frame (h : ∀ (session : Session) (link : Link), operation.on { session with link } =
    ((operation.on session).1, { (operation.on session).2 with link })) (session : Session) :
    operation.Makes [] session := by
  refine ⟨?_, fun link _ => ⟨link, .nothing, h session link⟩⟩
  have same : (operation.on session).2.link = session.link :=
    congrArg (fun done => done.2.link) (h session session.link)
  rw [same]
  exact .nothing

theorem orderly_of_frame (h : ∀ (session : Session) (link : Link), operation.on { session with link } =
    ((operation.on session).1, { (operation.on session).2 with link })) : Orderly operation :=
  ⟨fun session => ⟨[], makes_of_frame h session⟩⟩

instance (a : α) : Orderly (pure a : Operation α) := orderly_of_frame fun _ _ => rfl

instance (failure : Failure) : Orderly (throw failure : Operation α) := orderly_of_frame fun _ _ => rfl

instance (result : Result α) : Orderly (liftM result : Operation α) := orderly_of_frame fun _ _ => rfl

instance (info : Info) : Orderly (modify fun session => { session with info } : Operation PUnit) :=
  orderly_of_frame fun _ _ => rfl

theorem makes_exchange (request : Bytes) (session : Session) :
    (exchange request).Makes [⟨request, (session.link.sendCbor request).1⟩] session := by
  refine ⟨.one request session.link, fun link answers => ?_⟩
  obtain ⟨same, -⟩ := answers link.control request
  rw [Link.hold_control] at same
  refine ⟨_, same ▸ Link.Conversed.one request link, ?_⟩
  rw [on_exchange, on_exchange, same]

/-- What goes on from the result of an operation makes its exchanges after those of the operation. -/
theorem Makes.follow {whole : Operation β} {next : Result α → Operation β} {later : List Link.Exchange}
    (h : ∀ session, whole.on session = (next (operation.on session).1).on (operation.on session).2)
    (first : operation.Makes made session)
    (second : (next (operation.on session).1).Makes later (operation.on session).2) :
    whole.Makes (made ++ later) session := by
  refine ⟨?_, fun link answers => ?_⟩
  · rw [h]
    exact first.conversed.trans second.conversed
  · rw [List.map_append] at answers
    obtain ⟨between, conversed, same⟩ := first.elsewhere link answers.earlier
    obtain ⟨after, conversed', same'⟩ := second.elsewhere between (answers.later conversed)
    refine ⟨after, conversed.trans conversed', ?_⟩
    rw [h, h session, same]
    exact same'

theorem orderly_of_follow (operation : Operation α) [first : Orderly operation] (next : Result α → Operation β)
    (second : ∀ result, Orderly (next result)) {whole : Operation β}
    (h : ∀ session, whole.on session = (next (operation.on session).1).on (operation.on session).2) :
    Orderly whole where
  makes session := by
    obtain ⟨made, first⟩ := first.makes session
    obtain ⟨later, second⟩ := (second _).makes (operation.on session).2
    exact ⟨_, first.follow h second⟩

/-- What a bind goes on with. -/
def resume (next : α → Operation β) : Result α → Operation β
  | .ok a => next a
  | .error failure => throw failure

theorem on_bind_resume (next : α → Operation β) (session : Session) :
    (operation >>= next).on session = (resume next (operation.on session).1).on (operation.on session).2 := by
  rw [on_bind]
  rcases operation.on session with ⟨_ | _, _⟩ <;> rfl

theorem Makes.bind {next : α → Operation β} {later : List Link.Exchange} {a : α} {after : Session}
    (first : operation.Makes made session) (reached : operation.on session = (.ok a, after))
    (second : (next a).Makes later after) : (operation >>= next).Makes (made ++ later) session := by
  refine first.follow (on_bind_resume next) ?_
  rw [reached]
  exact second

theorem Makes.bind_error {next : α → Operation β} {failure : Failure} {after : Session}
    (first : operation.Makes made session) (reached : operation.on session = (.error failure, after)) :
    (operation >>= next).Makes made session := by
  rw [← List.append_nil made]
  refine first.follow (on_bind_resume next) ?_
  rw [reached]
  exact makes_of_frame (fun _ _ => rfl) after

theorem orderly_bind [Orderly operation] {next : α → Operation β} (second : ∀ a, Orderly (next a)) :
    Orderly (operation >>= next) := by
  refine orderly_of_follow operation (resume next) (fun result => ?_) (on_bind_resume next)
  cases result with
  | error failure => exact inferInstanceAs (Orderly (throw failure))
  | ok a => exact second a

instance [Orderly operation] {next : α → Operation β} [second : ∀ a, Orderly (next a)] :
    Orderly (operation >>= next) :=
  orderly_bind second

/-- What a handler goes on with. -/
def rescue (handler : Failure → Operation α) : Result α → Operation α
  | .ok a => pure a
  | .error failure => handler failure

theorem on_tryCatch_rescue (handler : Failure → Operation α) (session : Session) :
    (tryCatch operation handler).on session =
      (rescue handler (operation.on session).1).on (operation.on session).2 := by
  rw [on_tryCatch]
  rcases operation.on session with ⟨_ | _, _⟩ <;> rfl

theorem Makes.unattended (h : operation.Makes made (quiet session)) : (unattended operation).Makes made session := by
  refine ⟨h.conversed.of_heed.heed _, fun link answers => ?_⟩
  obtain ⟨after, conversed, same⟩ := h.elsewhere (link.heed false) (answers.heed false)
  refine ⟨after.heed link.isHeeding, conversed.of_heed.heed _, ?_⟩
  have same : operation.on (quiet { session with link }) = _ := same
  rw [on_unattended, on_unattended, same]

instance [Orderly operation] : Orderly (unattended operation) where
  makes session := (Orderly.makes (quiet session)).imp fun _ => Makes.unattended

/-! ## First requests -/

variable {request : Bytes}

/-- The first request that an operation makes on a session is the given one. -/
def Begins (operation : Operation α) (request : Bytes) (session : Session) : Prop :=
  ∃ outcome later, session.link.Conversed (⟨request, outcome⟩ :: later) (operation.on session).2.link

theorem Sends.begins (h : operation.Sends [request] session) : operation.Begins request session := by
  obtain ⟨made, same, conversed⟩ := h.carried.conversed
  obtain ⟨exchange, rfl, rfl⟩ := List.map_eq_singleton_iff.1 same
  exact ⟨exchange.outcome, [], conversed⟩

theorem Begins.follow (first : operation.Begins request session) {whole : Operation β} (next : Operation β)
    [second : Orderly next] (h : whole.on session = next.on (operation.on session).2) :
    whole.Begins request session := by
  obtain ⟨outcome, made, conversed⟩ := first
  obtain ⟨later, makes⟩ := second.makes (operation.on session).2
  refine ⟨outcome, made ++ later, ?_⟩
  rw [h]
  exact conversed.trans makes.conversed

theorem Begins.bind (first : operation.Begins request session) {next : α → Operation β}
    (second : ∀ a, Orderly (next a)) : (operation >>= next).Begins request session := by
  rcases reached : operation.on session with ⟨failure | a, after⟩
  · exact first.follow (throw failure) (by rw [on_bind, reached]; rfl)
  · exact first.follow (next a) (by rw [on_bind, reached])

theorem Begins.tryCatch (first : operation.Begins request session) {handler : Failure → Operation α}
    (second : ∀ failure, Orderly (handler failure)) : (tryCatch operation handler).Begins request session := by
  rcases reached : operation.on session with ⟨failure | a, after⟩
  · exact first.follow (handler failure) (by rw [on_tryCatch, reached])
  · exact first.follow (pure a) (by rw [on_tryCatch, reached]; rfl)

theorem Begins.unattended (h : operation.Begins request (quiet session)) :
    (unattended operation).Begins request session := by
  obtain ⟨outcome, later, conversed⟩ := h
  exact ⟨outcome, later, conversed.of_heed.heed _⟩

end Operation

end SecurityKey
