import SecurityKey.Proofs.Request
import SecurityKey.Session.Basic

/-!
# Operations and what they send

An operation is evaluated step by step, and the requests that it puts on the link are those of its steps, in order.
-/

namespace SecurityKey

open Cbor (Value)

/-! ## Evaluation -/

namespace Operation

variable {α β : Type} {session : Session}

@[simp] theorem on_pure (a : α) : (pure a : Operation α).on session = (.ok a, session) := rfl

@[simp] theorem on_bind (operation : Operation α) (next : α → Operation β) :
    (operation >>= next).on session =
      match operation.on session with
      | (.ok a, session) => (next a).on session
      | (.error failure, session) => (.error failure, session) := by
  show (ExceptT.bind operation next) session = _
  simp only [ExceptT.bind, ExceptT.mk, bind, StateT.bind, ExceptT.bindCont, on, ExceptT.run, StateT.run]
  rcases operation session with ⟨_ | _, _⟩ <;> rfl

theorem on_tryCatch (operation : Operation α) (handler : Failure → Operation α) :
    (tryCatch operation handler).on session =
      match operation.on session with
      | (.ok a, session) => (.ok a, session)
      | (.error failure, session) => (handler failure).on session := by
  show (ExceptT.tryCatch operation handler) session = _
  simp only [ExceptT.tryCatch, ExceptT.mk, bind, StateT.bind, on, ExceptT.run, StateT.run]
  rcases operation session with ⟨_ | _, _⟩ <;> rfl

theorem on_bind_of_ok {operation : Operation α} {a : α} {after : Session} (h : operation.on session = (.ok a, after))
    (next : α → Operation β) : (operation >>= next).on session = (next a).on after := by
  rw [on_bind, h]

theorem on_map (f : α → β) (operation : Operation α) :
    (do return f (← operation) : Operation β).on session =
      ((operation.on session).1.map f, (operation.on session).2) := by
  rw [on_bind]
  rcases operation.on session with ⟨_ | a, after⟩ <;> rfl

@[simp] theorem on_liftM (result : Result α) : (liftM result : Operation α).on session = (result, session) := rfl

/-- An operation that looks at nothing and does nothing: it has always the same result. -/
def Gives (operation : Operation α) (result : Result α) : Prop :=
  ∀ session, operation.on session = (result, session)

theorem gives_liftM (result : Result α) : (liftM result : Operation α).Gives result := fun _ => rfl

theorem gives_pure (a : α) : (pure a : Operation α).Gives (.ok a) := fun _ => rfl

theorem on_bind_of_gives (operation : Operation α) {next : α → Operation β} {second : α → Result β}
    (h : ∀ a, (next a).Gives (second a)) :
    (operation >>= next).on session = ((operation.on session).1.bind second, (operation.on session).2) := by
  rw [on_bind]
  rcases operation.on session with ⟨failure | a, after⟩
  · rfl
  · exact h a after

theorem Gives.bind {operation : Operation α} {next : α → Operation β} {first : Result α} {second : α → Result β}
    (h : operation.Gives first) (h' : ∀ a, (next a).Gives (second a)) :
    (operation >>= next).Gives (first.bind second) := by
  intro session
  rw [on_bind_of_gives operation h', h]

@[simp] theorem on_currentInfo : currentInfo.on session = (.ok session.info, session) := rfl

@[simp] theorem on_random (n : Nat) : (random n).on session =
    (.ok (session.entropy.draw n).1, { session with entropy := (session.entropy.draw n).2 }) := rfl

@[simp] theorem on_flavor (option : String) (stable preview : Command) :
    (Session.flavor option stable preview).on session =
      (.ok (if !session.info.options.contains option && session.info.supportsVersion Info.fido21Pre then preview
        else stable), session) := rfl

theorem on_exchange (request : Bytes) : (exchange request).on session =
    ((session.link.sendCbor request).1.mapError Failure.link,
      { session with link := (session.link.sendCbor request).2 }) := rfl

/-- The session in which the exchanges of an unattended operation run. -/
def quiet (session : Session) : Session :=
  { session with link := session.link.heed false }

theorem on_unattended (operation : Operation α) : (unattended operation).on session =
    ((operation.on (quiet session)).1, { (operation.on (quiet session)).2 with
      link := (operation.on (quiet session)).2.link.heed session.link.isHeeding }) := rfl

theorem unattended_congr {operation other : Operation α} (h : operation.on (quiet session) = other.on (quiet session)) :
    (unattended operation).on session = (unattended other).on session := by
  rw [on_unattended, on_unattended, h]

end Operation

/-! ## Requests on a link -/

namespace Link

/-- The link `after` is what `before` becomes when the given requests are exchanged one after another; in between only
the caller's hold is heeded or not. -/
inductive Carried (before : Link) : List Bytes → Link → Prop where
  | nothing : Carried before [] before
  | heed {sent : List Bytes} {link : Link} (heeded : Bool) :
      Carried before sent link → Carried before sent (link.heed heeded)
  | exchange {sent : List Bytes} {link : Link} (request : Bytes) :
      Carried before sent link → Carried before (sent ++ [request]) (link.sendCbor request).2

theorem heed_heed (first second : Bool) (link : Link) : (link.heed first).heed second = link.heed second := by
  cases link <;> simp [heed, Function.comp_def]

theorem heed_isHeeding (heeded : Bool) (link : Link) : (link.heed heeded).heed link.isHeeding = link := by
  rw [heed_heed]
  cases link with
  | hid port deviceVersion =>
      obtain ⟨arrivals, sent, control⟩ := port
      cases control <;> rfl
  | card port extendedLength =>
      obtain ⟨arrivals, sent, control⟩ := port
      cases control <;> rfl

variable {before between after : Link} {requests : List Bytes}

theorem Carried.trans {earlier later : List Bytes} (first : Carried before earlier between)
    (second : Carried between later after) : Carried before (earlier ++ later) after := by
  induction second with
  | nothing => simpa using first
  | heed heeded _ ih => exact ih.heed heeded
  | exchange request _ ih => simpa using ih.exchange request

theorem Carried.one (request : Bytes) : Carried before [request] (before.sendCbor request).2 :=
  Carried.nothing.exchange request

/-- Heeding the caller or not before an exchange does not change what is exchanged. -/
theorem Carried.of_heed {heeded : Bool} (h : Carried (before.heed heeded) requests after) :
    Carried before requests after := by
  simpa using (Carried.nothing.heed heeded).trans h

end Link

/-! ## What an operation sends -/

namespace Operation

variable {α β : Type} {operation : Operation α} {next : α → Operation β} {requests : List Bytes} {session : Session}

/-- An operation exchanges exactly the given requests, and of the session only the link changes. -/
structure Sends (operation : Operation α) (requests : List Bytes) (session : Session) : Prop where
  carried : session.link.Carried requests (operation.on session).2.link
  frame : (operation.on session).2 = { session with link := (operation.on session).2.link }

/-- An operation that only looks at what it was given. -/
def Still (operation : Operation α) : Prop :=
  ∀ session, (operation.on session).2 = session

theorem still_pure (a : α) : (pure a : Operation α).Still := fun _ => rfl

theorem still_liftM (result : Result α) : (liftM result : Operation α).Still := fun _ => rfl

theorem Still.bind (first : operation.Still) (second : ∀ a, (next a).Still) : (operation >>= next).Still := by
  intro session
  have same := first session
  rw [on_bind]
  rcases h : operation.on session with ⟨_ | a, after⟩
  · rw [h] at same
    exact same
  · rw [h] at same
    subst same
    exact second a _

theorem on_unattended_of_still {result : Result α} (h : operation.on (quiet session) = (result, quiet session)) :
    (unattended operation).on session = (result, session) := by
  rw [on_unattended, h, quiet, Link.heed_isHeeding]

theorem Sends.of_after_eq {other : Operation β} (h : operation.Sends requests session)
    (same : (other.on session).2 = (operation.on session).2) : other.Sends requests session := by
  refine ⟨?_, ?_⟩ <;> rw [same]
  · exact h.carried
  · exact h.frame

theorem Sends.bind (first : operation.Sends requests session) (second : ∀ a, (next a).Still) :
    (operation >>= next).Sends requests session := by
  refine first.of_after_eq ?_
  rw [on_bind]
  rcases operation.on session with ⟨_ | a, after⟩
  · rfl
  · exact second a after

theorem Sends.after {a : α} (first : operation.on session = (.ok a, session))
    (second : (next a).Sends requests session) : (operation >>= next).Sends requests session := by
  refine second.of_after_eq ?_
  rw [on_bind_of_ok first]

theorem Sends.unattended (h : operation.Sends requests (quiet session)) :
    (unattended operation).Sends requests session := by
  refine ⟨?_, ?_⟩ <;> rw [on_unattended]
  · exact h.carried.of_heed.heed _
  · rw [h.frame]
    rfl

/-- An operation fails after it exchanged exactly the given requests. -/
def Fails (operation : Operation α) (requests : List Bytes) (session : Session) : Prop :=
  ∃ failure after, operation.on session = (.error failure, after) ∧ session.link.Carried requests after.link

theorem Fails.of_on_eq {other : Operation α} (same : operation.on session = other.on session)
    (h : other.Fails requests session) : operation.Fails requests session := by
  unfold Fails
  rw [same]
  exact h

theorem Fails.bind (h : operation.Fails requests session) : (operation >>= next).Fails requests session := by
  obtain ⟨failure, after, failed, carried⟩ := h
  exact ⟨failure, after, by rw [on_bind, failed], carried⟩

theorem Fails.unattended (h : operation.Fails requests (quiet session)) :
    (unattended operation).Fails requests session := by
  obtain ⟨failure, after, failed, carried⟩ := h
  exact ⟨failure, _, by rw [on_unattended, failed], carried.of_heed.heed _⟩

end Operation

/-! ## Sending a command -/

namespace Session

variable {command : Command} {arguments : Option Value} {session : Session}

/-- The data that answers a request, and the session after the exchange. -/
def exchanged (request : Bytes) (session : Session) : Result (Option Response) × Session :=
  (((session.link.sendCbor request).1.mapError Failure.link).bind Response.ofAnswer,
    { session with link := (session.link.sendCbor request).2 })

theorem on_send_of_encode {request : Bytes} (h : Request.encode command arguments = .ok request) :
    (send command arguments).on session = exchanged request session := by
  unfold send exchanged
  rw [h, Operation.on_bind, Operation.on_liftM]
  simp only [Operation.on_bind, Operation.on_exchange, Operation.on_liftM]
  cases (session.link.sendCbor request).1 <;> rfl

theorem sends_send {request : Bytes} (h : Request.encode command arguments = .ok request) :
    (send command arguments).Sends [request] session := by
  refine ⟨?_, ?_⟩ <;> rw [on_send_of_encode h]
  · exact .one request
  · rfl

end Session

/-! ## Answers -/

namespace Response

/-- The answer that a response comes in. -/
def toAnswer (response : Response) : Bytes :=
  0x00 :: response.toValue.write

theorem ofAnswer_toAnswer {response : Response} (bound : response.entries.length < 2 ^ 64)
    (each : ∀ field ∈ response.entries, Cbor.Readable (Cbor.maxDepth - 1) field.2) :
    ofAnswer response.toAnswer = .ok (some response) := by
  have full : (Value.map (Cbor.entriesOf response.entries)).write.isEmpty = false := by
    rw [Cbor.write_entriesOf, Request.isEmpty_writeMap]
  show ofAnswer (0x00 :: (Value.map (Cbor.entriesOf response.entries)).write) = _
  simp only [ofAnswer, ne_eq, not_true_eq_false, if_false, full, Bool.false_eq_true]
  rw [Request.ofBytes_write_entriesOf bound each]
  rfl

/-- Arguments can be written after a status of zero, and are then the data of an answer. -/
theorem ofAnswer_pack {arguments : List (Option Value)} (bound : arguments.length < 2 ^ 64)
    (each : ∀ argument, some argument ∈ arguments → Request.IsArgument argument) :
    ∃ encoded, (Request.pack arguments).canonical = .ok encoded ∧
      ofAnswer (0x00 :: encoded) = .ok (some ⟨Request.numbered 1 arguments⟩) := by
  refine ⟨_, Request.canonical_pack bound fun argument mem => by rw [(each argument mem).ordered], ?_⟩
  simp only [ofAnswer, ne_eq, not_true_eq_false, if_false, Request.isEmpty_writeMap, Bool.false_eq_true]
  rw [Request.ofBytes_writeMap_of_ordered bound each]
  rfl

end Response

end SecurityKey
